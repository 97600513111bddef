import LineBudget.Proofs.Line.Segment
import LineBudget.Proofs.Text.Replacing
import Mathlib

/-! The lines of a file as the lines of its text. It makes no difference whether the octets are
divided at line feeds before they are decoded or the text afterwards: a line feed is never part of a
longer character, and no other character divides a line. -/
namespace LineBudget.Line
open LineBudget.Text.Utf8

/-- A text without the carriage return at its end, if it has one there. -/
def withoutReturn (text : List Char) : List Char :=
  if text.getLast? = some '\r' then text.dropLast else text

theorem carriageReturn_plain : carriageReturn < 0x80 := by decide

variable {content octets : List UInt8} {limit : Int}

theorem decodeReplacing_dropReturn (octets : List UInt8) :
    decodeReplacing (dropReturn octets) = withoutReturn (decodeReplacing octets) := by
  by_cases ends : octets.getLast? = some carriageReturn
  · obtain ⟨front, rfl⟩ := List.getLast?_eq_some_iff.mp ends
    have decoded : decodeReplacing (front ++ [carriageReturn]) = decodeReplacing front ++ ['\r'] := by
      rw [decodeReplacing_append carriageReturn_plain, decodeReplacing_nil]
      rfl
    rw [dropReturn_concat, decoded, withoutReturn, List.getLast?_concat, if_pos rfl,
      List.dropLast_concat]
  · have stays : (decodeReplacing octets).getLast? ≠ some '\r' :=
      mt (getLast?_of_decodeReplacing carriageReturn_plain) ends
    rw [dropReturn, if_neg ends, withoutReturn, if_neg stays]

theorem segments_eq_nil_iff : segments content = [] ↔ content = [] := by
  induction content using content_induction with
  | empty => simp [segments_nil]
  | last line nonempty plain => simp [segments_plain nonempty plain, nonempty]
  | line line rest plain ih => simp [segments_line plain]

/-- A limit that no segment goes beyond is a natural number unless there are no segments. -/
theorem octetLines_fits (fits : ∀ s ∈ segments content, (s.length : Int) ≤ limit) :
    octetLines limit content = .ok ((segments content).map dropReturn) := by
  by_cases natural : 0 ≤ limit
  · obtain ⟨limit, rfl⟩ := Int.eq_ofNat_of_zero_le natural
    have within : Fits limit content := fun s member => Int.ofNat_le.mp (fits s member)
    rw [octetLines_segments, if_pos within]
  · have none : segments content = [] := List.eq_nil_iff_forall_not_mem.mpr fun s member => by
      have := fits s member
      omega
    have nothing : readOnce (readCap limit) content = [] := by
      rw [segments_eq_nil_iff.mp none, ← List.length_eq_zero_iff]
      exact Nat.le_zero.mp (length_readOnce_le (readCap limit) [])
    rw [none, (Reads.ended nothing).octetLines_eq]
    rfl

theorem textLines_fits (fits : ∀ s ∈ segments content, (s.length : Int) ≤ limit) :
    textLines limit content =
      .ok ((segments content).map fun s => decodeReplacing (dropReturn s)) := by
  rw [textLines, octetLines_fits fits]
  simp only [Except.map, List.map_map]
  rfl

end LineBudget.Line
