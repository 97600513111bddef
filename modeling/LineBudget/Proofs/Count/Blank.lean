import LineBudget.Proofs.Count.Filled
import LineBudget.Proofs.Line.Decoding

/-! Blank lines told from their octets. Trimming leaves a replacement character in place, so that a
line is blank only if all of its octets are spellings of blanks: a cut off, overlong or foreign
spelling of one fills its line. -/
namespace LineBudget.Count
open LineBudget.Files LineBudget.Language LineBudget.Line LineBudget.Text

/-- Octets that spell a text of blanks alone. No octets spell the empty one. -/
def SpellsBlanks (octets : List UInt8) : Prop := ∃ text, Blanks text ∧ Utf8.Spells text octets

/-- The line adds to the total and to nothing else, whatever the grammar and the lines before it. -/
def Skipped (line : List Char) : Prop := ∀ grammar t, Tally.add grammar t line = t.skip 1

variable {path : String} {limit : Int} {content octets : List UInt8} {line : List Char}

theorem skipped_iff : Skipped line ↔ Blanks line := by
  constructor
  · intro skipped
    by_contra filled
    -- Without a grammar a line that is not blank is code.
    have counted := addsCode_filled filled {} rfl
    rw [skipped none {}] at counted
    cases counted
  · intro blank grammar t
    exact Tally.add_blanks grammar t blank

theorem blanks_decodeReplacing_iff : Blanks (Utf8.decodeReplacing octets) ↔ SpellsBlanks octets := by
  have unblank {text : List Char} (blank : Blanks text) : Utf8.replacement ∉ text := fun member =>
    absurd (blank _ member) (by decide)
  constructor
  · intro blank
    exact ⟨_, blank, (Utf8.decodeReplacing_eq_iff (unblank blank)).mp rfl⟩
  · rintro ⟨text, blank, spells⟩
    rwa [(Utf8.decodeReplacing_eq_iff (unblank blank)).mpr spells]

instance (octets : List UInt8) : Decidable (SpellsBlanks octets) :=
  decidable_of_iff _ blanks_decodeReplacing_iff

/-- A carriage return is a blank, whether or not it is taken for a part of the terminator. -/
theorem spellsBlanks_dropReturn : SpellsBlanks (dropReturn octets) ↔ SpellsBlanks octets := by
  rw [← blanks_decodeReplacing_iff, ← blanks_decodeReplacing_iff, decodeReplacing_dropReturn,
    withoutReturn]
  split
  case isTrue ends =>
    obtain ⟨front, whole⟩ := List.getLast?_eq_some_iff.mp ends
    have blank : Blanks ['\r'] := by decide
    rw [whole, List.dropLast_concat]
    exact ⟨fun front => List.forall_mem_append.mpr ⟨front, blank⟩,
      fun both => (List.forall_mem_append.mp both).1⟩
  case isFalse => rfl

theorem blanks_segmentText_iff : Blanks (segmentText octets) ↔ SpellsBlanks octets :=
  blanks_decodeReplacing_iff.trans spellsBlanks_dropReturn

theorem not_spellsBlanks {fault : Utf8.Fault} (broken : Utf8.decode octets = .error fault) :
    ¬ SpellsBlanks octets := by
  rintro ⟨text, _, spells⟩
  rw [Utf8.decode_eq_ok_iff.mpr spells] at broken
  cases broken

theorem filledLines_eq (content : List UInt8) :
    filledLines content = (segments content).countP (¬ SpellsBlanks ·) := by
  rw [filledLines, List.countP_map]
  simp only [Function.comp_def, blanks_segmentText_iff]

/-- A line of a file is trimmed to nothing, and is then skipped under every grammar, exactly if its
octets spell a text of blanks; it makes no difference whether a carriage return at its end belongs to
them. A line with octets that are no character is never skipped. Where the language is not known and
no line is too long, the lines of code are the lines whose octets do not spell blanks. -/
theorem countFile_blank (d : Disk) (path : String) (content : List UInt8)
    (read : d.read (Path.ofText path) = .ok content) :
    (∀ line ∈ segments content,
      (trim (segmentText line) = [] ↔ SpellsBlanks line) ∧
      (Skipped (segmentText line) ↔ SpellsBlanks line) ∧
      (SpellsBlanks (dropReturn line) ↔ SpellsBlanks line) ∧
      ∀ fault, Utf8.decode (dropReturn line) = .error fault → ¬ Skipped (segmentText line)) ∧
    ∀ limit : Int, (∀ line ∈ segments content, line.length ≤ limit) →
      textLines limit content = .ok ((segments content).map segmentText) ∧
      (detect path = none → countFile d path .codeOnly limit =
        .ok ⟨path, (segments content).length, (segments content).countP (¬ SpellsBlanks ·)⟩) := by
  refine ⟨fun line _ => ⟨?_, ?_, spellsBlanks_dropReturn, fun fault broken => ?_⟩,
    fun limit fits => ?_⟩
  · rw [trim_eq_nil_iff, blanks_segmentText_iff]
  · rw [skipped_iff, blanks_segmentText_iff]
  · rw [skipped_iff, blanks_segmentText_iff, ← spellsBlanks_dropReturn]
    exact not_spellsBlanks broken
  · have lines : textLines limit content = .ok ((segments content).map segmentText) :=
      textLines_fits fits
    refine ⟨lines, fun unknown => ?_⟩
    rw [countFile_read .codeOnly limit read, countContent, lines]
    simp only [classify_total, List.length_map, ← filledLines_eq]
    rw [← codeLines_unknown unknown]
    rfl

/-- A wide space before a terminator of two octets is blank. The first two octets of its three, and a
space of one octet in another encoding, are not. -/
theorem countFile_blank_spaces :
    let content : List UInt8 := [0xE3, 0x80, 0x80, 0x0D, 0x0A, 0xE3, 0x80, 0x0A, 0xA0]
    countFile (withFile "a" content) "a" .codeOnly 4 = .ok ⟨"a", 3, 2⟩ ∧
    Skipped (segmentText [0xE3, 0x80, 0x80, 0x0D]) ∧ ¬ Skipped (segmentText [0xE3, 0x80]) := by
  intro content
  have read : (withFile "a" content).read (Path.ofText "a") = .ok content := by cbv
  have unknown : detect "a" = none := by cbv
  obtain ⟨lines, counts⟩ := countFile_blank _ "a" content read
  refine ⟨?_, ?_, ?_⟩
  · have texts : (segments content).map segmentText = [['\u3000'], ['\uFFFD'], ['\uFFFD']] := by cbv
    rw [(counts 4 (by decide)).2 unknown, ← filledLines_eq, filledLines, texts]
    rfl
  · have spelled : Utf8.Spells ['\u3000', '\r'] [0xE3, 0x80, 0x80, 0x0D] := rfl
    exact (lines _ (by decide)).2.1.mpr ⟨_, by decide, spelled⟩
  · have broken : ∃ fault, Utf8.decode [0xE3, 0x80] = .error fault := ⟨_, by cbv⟩
    obtain ⟨fault, broken⟩ := broken
    exact (lines [0xE3, 0x80] (by decide)).2.2.2 fault broken

end LineBudget.Count
