import LineBudget.Line.Physical
import Mathlib.Data.List.TakeWhile

/-! Physical lines without a cap: the content divided at its line feeds. The capped reader is a run
of single reads; it ends on every content, and it yields these segments up to the first one that is
too long. -/
namespace LineBudget.Line

/-- The pieces between line feeds, without an empty one at the end. -/
def segments (content : List UInt8) : List (List UInt8) :=
  let pieces := content.splitOn lineFeed
  if pieces.getLast? = some [] then pieces.dropLast else pieces

/-- The segments that a line feed ends. -/
def terminated (content : List UInt8) : List (List UInt8) := (content.splitOn lineFeed).dropLast

/-- No segment has more octets than the limit; a carriage return at its end counts. -/
def Fits (limit : Nat) (content : List UInt8) : Prop := ∀ s ∈ segments content, s.length ≤ limit

instance (limit : Nat) (content : List UInt8) : Decidable (Fits limit content) :=
  inferInstanceAs (Decidable (∀ s ∈ segments content, _))

/-- Reads one after the other, until one returns nothing or cannot be a line. Only a line that was
read goes on to the next read, behind its own octets. -/
inductive Reads (limit : Int) :
    List UInt8 → Nat → Except TooLong (List (List UInt8)) → Prop where
  | ended {octets : List UInt8} :
      readOnce (readCap limit) octets = [] → Reads limit octets 1 (.ok [])
  | refused {octets read : List UInt8} {e : TooLong} :
      readOnce (readCap limit) octets = read → read ≠ [] → lineOfRead limit read = .error e →
      Reads limit octets 1 (.error e)
  | next {octets read line : List UInt8} {n : Nat} {result : Except TooLong (List (List UInt8))} :
      readOnce (readCap limit) octets = read → read ≠ [] → lineOfRead limit read = .ok line →
      Reads limit (octets.drop read.length) n result →
      Reads limit octets (n + 1) (result.map (line :: ·))

/-- The content with a carriage return put in front of every line feed. -/
def withReturns (content : List UInt8) : List UInt8 :=
  content.flatMap fun b => if b = lineFeed then [carriageReturn, lineFeed] else [b]

variable {limit : Nat} {content line rest : List UInt8}

theorem segments_nil : segments [] = [] := rfl

theorem segments_plain (nonempty : line ≠ []) (plain : lineFeed ∉ line) :
    segments line = [line] := by
  simp [segments, List.splitOn_eq_singleton plain, nonempty]

theorem segments_line (plain : lineFeed ∉ line) (rest : List UInt8) :
    segments (line ++ lineFeed :: rest) = line :: segments rest := by
  have nonempty := List.splitOn_ne_nil lineFeed rest
  have last : (line :: rest.splitOn lineFeed).getLast? = (rest.splitOn lineFeed).getLast? := by
    rw [List.getLast?_cons, List.getLast?_eq_some_getLast nonempty, Option.getD_some]
  simp only [segments, List.splitOn_append_cons_self_of_not_mem plain, last,
    List.dropLast_cons_of_ne_nil nonempty]
  split
  · rfl
  · rfl

theorem terminated_plain (plain : lineFeed ∉ line) : terminated line = [] := by
  simp [terminated, List.splitOn_eq_singleton plain]

theorem terminated_line (plain : lineFeed ∉ line) (rest : List UInt8) :
    terminated (line ++ lineFeed :: rest) = line :: terminated rest := by
  rw [terminated, List.splitOn_append_cons_self_of_not_mem plain,
    List.dropLast_cons_of_ne_nil (List.splitOn_ne_nil lineFeed rest)]
  rfl

theorem fits_nil : Fits limit [] := by
  simp [Fits, segments_nil]

theorem fits_plain (nonempty : line ≠ []) (plain : lineFeed ∉ line) :
    Fits limit line ↔ line.length ≤ limit := by
  simp [Fits, segments_plain nonempty plain]

theorem fits_line (plain : lineFeed ∉ line) (rest : List UInt8) :
    Fits limit (line ++ lineFeed :: rest) ↔ line.length ≤ limit ∧ Fits limit rest := by
  simp [Fits, segments_line plain]

/-- A content is empty, or a last line without a line feed, or a line with one before the rest. -/
theorem content_induction {P : List UInt8 → Prop} (empty : P [])
    (last : ∀ line, line ≠ [] → lineFeed ∉ line → P line)
    (line : ∀ line rest, lineFeed ∉ line → P rest → P (line ++ lineFeed :: rest))
    (content : List UInt8) : P content := by
  by_cases more : lineFeed ∈ content
  · obtain ⟨first, rest, whole, plain⟩ := List.eq_append_cons_of_mem more
    have shorter : rest.length < content.length := by
      rw [whole, List.length_append, List.length_cons]
      omega
    exact whole ▸ line first rest plain (content_induction empty last line rest)
  · by_cases none : content = []
    · exact none ▸ empty
    · exact last content none more
termination_by content.length

theorem takeWhile_plain (plain : lineFeed ∉ line) : line.takeWhile (· != lineFeed) = line := by
  rw [List.takeWhile_eq_self_iff]
  intro b member
  simpa using fun same : b = lineFeed => plain (same ▸ member)

theorem readCap_natCast (limit : Nat) : readCap limit = some (limit + 1) := by
  have above : ¬ (limit : Int) < -1 := by omega
  simp only [readCap, above, if_false, Option.some.injEq]
  omega

theorem readOnce_plain (plain : lineFeed ∉ line) :
    readOnce (readCap limit) line = line.take (limit + 1) := by
  simp [readOnce, readCap_natCast, takeWhile_plain plain]

/-- A read ends behind the line feed if that is within the cap, and else at the cap. -/
theorem readOnce_line (plain : lineFeed ∉ line) (rest : List UInt8) :
    readOnce (readCap limit) (line ++ lineFeed :: rest) =
      if line.length ≤ limit then line ++ [lineFeed] else line.take (limit + 1) := by
  have head : (line ++ lineFeed :: rest).takeWhile (· != lineFeed) = line := by
    rw [List.takeWhile_append, takeWhile_plain plain, if_pos rfl]
    simp
  simp only [readOnce, readCap_natCast, head, List.drop_left, List.take_succ_cons, List.take_zero]
  split
  case isTrue within =>
    exact List.take_of_length_le (by simpa using within)
  case isFalse beyond =>
    exact List.take_append_of_le_length (by omega)

theorem lineOfRead_line (limit : Int) (line : List UInt8) :
    lineOfRead limit (line ++ [lineFeed]) = .ok (dropReturn line) := by
  simp [lineOfRead]

theorem lineOfRead_plain (plain : lineFeed ∉ line) : lineOfRead limit line =
    if line.length ≤ limit then .ok (dropReturn line) else .error ⟨limit⟩ := by
  have unended : line.getLast? ≠ some lineFeed := fun ends => plain (List.mem_of_getLast? ends)
  rw [lineOfRead, if_neg unended]
  by_cases within : line.length ≤ limit
  · rw [if_neg (by omega), if_pos within]
  · rw [if_pos (by omega), if_neg within]

/-- A line beyond the limit is noticed at the cap, whatever follows it. -/
theorem reads_long (plain : lineFeed ∉ line) (long : limit < line.length)
    (read : readOnce (readCap limit) content = line.take (limit + 1)) :
    Reads limit content 1 (.error ⟨limit⟩) := by
  have size : (line.take (limit + 1)).length = limit + 1 := by
    rw [List.length_take]
    omega
  have front : lineFeed ∉ line.take (limit + 1) := fun member => plain (List.mem_of_mem_take member)
  refine .refused read (List.ne_nil_of_length_pos (by omega)) ?_
  rw [lineOfRead_plain front, if_neg (by omega)]

/-- The reader ends within one read more than there are segments. It has read all of them if they
fit, and else it stops with the failure. -/
theorem reads_segments (limit : Nat) (content : List UInt8) :
    ∃ n ≤ (segments content).length + 1, Reads limit content n
      (if Fits limit content then .ok ((segments content).map dropReturn) else .error ⟨limit⟩) := by
  -- One read takes one segment off. The read behind the last one returns nothing.
  induction content using content_induction with
  | empty =>
    rw [if_pos fits_nil]
    exact ⟨1, by simp, .ended (by simp [readOnce, readCap_natCast])⟩
  | last line nonempty plain =>
    have read : readOnce (readCap limit) line = line.take (limit + 1) := readOnce_plain plain
    simp only [fits_plain nonempty plain, segments_plain nonempty plain]
    by_cases within : line.length ≤ limit
    · rw [List.take_of_length_le (by omega)] at read
      rw [if_pos within]
      have stop : Reads limit (line.drop line.length) 1 (.ok []) :=
        .ended (by simp [readOnce, readCap_natCast])
      have taken : lineOfRead limit line = .ok (dropReturn line) := by
        rw [lineOfRead_plain plain, if_pos within]
      exact ⟨2, by simp, .next read nonempty taken stop⟩
    · rw [if_neg within]
      exact ⟨1, by simp, reads_long plain (by omega) read⟩
  | line line rest plain ih =>
    obtain ⟨n, bound, reads⟩ := ih
    have read : readOnce (readCap limit) (line ++ lineFeed :: rest) = _ := readOnce_line plain rest
    simp only [fits_line plain, segments_line plain, List.length_cons]
    by_cases within : line.length ≤ limit
    · rw [if_pos within] at read
      have whole : line ++ lineFeed :: rest = (line ++ [lineFeed]) ++ rest := by simp
      have behind : (line ++ lineFeed :: rest).drop (line ++ [lineFeed]).length = rest := by
        rw [whole, List.drop_left]
      refine ⟨n + 1, by omega, ?_⟩
      have run := Reads.next read (by simp) (lineOfRead_line limit line) (behind.symm ▸ reads)
      by_cases fits : Fits limit rest
      · simpa [within, fits, Except.map] using run
      · simpa [within, fits, Except.map] using run
    · rw [if_neg within] at read
      rw [if_neg (fun both => within both.1)]
      exact ⟨1, by omega, reads_long plain (by omega) read⟩

/-- What a run of reads comes to is what the reader returns, behind the lines it already has. -/
theorem Reads.readOnto_eq {limit : Int} {octets : List UInt8} {n : Nat}
    {result : Except TooLong (List (List UInt8))} (reads : Reads limit octets n result)
    (done : List (List UInt8)) :
    readOnto limit done octets = result.map (done.reverse ++ ·) := by
  induction reads generalizing done with
  | ended read =>
    rw [readOnto]
    split
    case h_1 => simp [Except.map]
    case h_2 b rest some => simp [read] at some
  | refused read nonempty failed =>
    rw [readOnto]
    split
    case h_1 none => exact absurd (read.symm.trans none) nonempty
    case h_2 b rest some =>
      rw [← some, read, failed]
      rfl
  | @next octets read line n result once nonempty taken _ ih =>
    rw [readOnto]
    split
    case h_1 none => exact absurd (once.symm.trans none) nonempty
    case h_2 b rest some =>
      -- The lines already read grow by this one, so that the induction is for all of them.
      obtain rfl : read = b :: rest := once.symm.trans some
      simp only [taken]
      rw [← List.length_cons, ih (line :: done)]
      cases result with
      | error e => rfl
      | ok lines => simp [Except.map]

theorem Reads.octetLines_eq {limit : Int} {octets : List UInt8} {n : Nat}
    {result : Except TooLong (List (List UInt8))} (reads : Reads limit octets n result) :
    octetLines limit octets = result := by
  rw [octetLines, reads.readOnto_eq]
  cases result with
  | error e => rfl
  | ok lines => rfl

theorem octetLines_segments (limit : Nat) (content : List UInt8) :
    octetLines limit content =
      if Fits limit content then .ok ((segments content).map dropReturn) else .error ⟨limit⟩ := by
  obtain ⟨_, _, reads⟩ := reads_segments limit content
  exact reads.octetLines_eq

section Returns

theorem dropReturn_concat (line : List UInt8) : dropReturn (line ++ [carriageReturn]) = line := by
  simp [dropReturn]

theorem dropReturn_plain (clean : carriageReturn ∉ line) : dropReturn line = line := by
  rw [dropReturn, if_neg fun ends => clean (List.mem_of_getLast? ends)]

theorem withReturns_plain (plain : lineFeed ∉ line) : withReturns line = line := by
  induction line with
  | nil => rfl
  | cons b rest ih =>
    rw [List.mem_cons, not_or] at plain
    obtain ⟨first, later⟩ := plain
    rw [withReturns, List.flatMap_cons, if_neg (Ne.symm first)]
    exact congrArg (b :: ·) (ih later)

theorem withReturns_line (plain : lineFeed ∉ line) (rest : List UInt8) :
    withReturns (line ++ lineFeed :: rest) =
      (line ++ [carriageReturn]) ++ lineFeed :: withReturns rest := by
  have front := withReturns_plain plain
  unfold withReturns at front ⊢
  rw [List.flatMap_append, front, List.flatMap_cons, if_pos rfl]
  simp

theorem not_mem_concat_return (plain : lineFeed ∉ line) : lineFeed ∉ line ++ [carriageReturn] := by
  rw [List.mem_append, List.mem_singleton]
  rintro (member | same)
  · exact plain member
  · exact absurd same (by decide)

/-- The added carriage returns count, so that a terminated line must be shorter than the limit. -/
theorem fits_withReturns (limit : Nat) (content : List UInt8) :
    Fits limit (withReturns content) ↔
      Fits limit content ∧ ∀ s ∈ terminated content, s.length ≠ limit := by
  induction content using content_induction with
  | empty => simp [withReturns, fits_nil, terminated]
  | last line nonempty plain =>
    rw [withReturns_plain plain, terminated_plain plain]
    simp
  | line line rest plain ih =>
    rw [withReturns_line plain, fits_line (not_mem_concat_return plain), fits_line plain,
      terminated_line plain, ih, List.forall_mem_cons, List.length_append, List.length_singleton]
    constructor
    · rintro ⟨within, fits, later⟩
      exact ⟨⟨by omega, fits⟩, by omega, later⟩
    · rintro ⟨⟨within, fits⟩, other, later⟩
      exact ⟨by omega, fits, later⟩

theorem lines_withReturns (clean : carriageReturn ∉ content) :
    (segments (withReturns content)).map dropReturn = (segments content).map dropReturn := by
  induction content using content_induction with
  | empty => rfl
  | last line nonempty plain => rw [withReturns_plain plain]
  | line line rest plain ih =>
    have first : carriageReturn ∉ line := fun member => clean (by simp [member])
    have later : carriageReturn ∉ rest := fun member => clean (by simp [member])
    rw [withReturns_line plain, segments_line (not_mem_concat_return plain), segments_line plain,
      List.map_cons, List.map_cons, dropReturn_concat, dropReturn_plain first, ih later]

end Returns
end LineBudget.Line
