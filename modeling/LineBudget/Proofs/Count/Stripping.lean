import LineBudget.Proofs.Count.Content
import LineBudget.Proofs.Line.Stripping

/-! A file with its blank lines and comments deleted: it has as many lines as the whole file has
lines of code. -/
namespace LineBudget.Count
open LineBudget.Language LineBudget.Line
open scoped List

variable {path : String} {limit : Nat} {content : List UInt8} {kept : List (List UInt8)}

/-- The text of a segment. -/
def segmentText (segment : List UInt8) : List Char :=
  Text.Utf8.decodeReplacing (dropReturn segment)

/-- The content without the segments that are not code. A line feed ends each that is left. -/
def stripped (path : String) (content : List UInt8) : List UInt8 :=
  (keepCode (Language.detect path) segmentText (segments content)).flatMap (· ++ [lineFeed])

theorem not_mem_segment {segment : List UInt8} (member : segment ∈ segments content) :
    lineFeed ∉ segment := by
  induction content using content_induction with
  | empty => cases member
  | last line nonempty plain =>
    rw [segments_plain nonempty plain, List.mem_singleton] at member
    exact member ▸ plain
  | line line rest plain ih =>
    rw [segments_line plain, List.mem_cons] at member
    rcases member with rfl | later
    · exact plain
    · exact ih later

theorem segments_flatMap (plain : ∀ segment ∈ kept, lineFeed ∉ segment) :
    segments (kept.flatMap (· ++ [lineFeed])) = kept := by
  induction kept with
  | nil => rfl
  | cons first rest ih =>
    obtain ⟨here, later⟩ := List.forall_mem_cons.mp plain
    rw [List.flatMap_cons, List.append_assoc, List.singleton_append, segments_line here, ih later]

theorem segments_stripped (path : String) (content : List UInt8) :
    segments (stripped path content) =
      keepCode (Language.detect path) segmentText (segments content) := by
  apply segments_flatMap
  intro segment member
  exact not_mem_segment ((keepCode_sublist ..).subset member)

theorem stripped_stripped (path : String) (content : List UInt8) :
    stripped path (stripped path content) = stripped path content := by
  rw [stripped, segments_stripped, keepCode_keepCode]
  rfl

theorem fits_stripped (fits : Fits limit content) : Fits limit (stripped path content) := by
  intro segment member
  rw [segments_stripped] at member
  exact fits segment ((keepCode_sublist ..).subset member)

/-- Deleting the lines at which the running count of code does not go up leaves lines that are all
code, as many as were counted, and a second pass deletes nothing. Of a file without its blank lines
and comments, all lines are counted, or its lines of code, and they are as many as the lines of code
of the whole file. -/
theorem countContent_stripped (grammar : Option Grammar) (lines : List (List Char)) :
    (let kept := keepCode grammar id lines
      let code := (classify grammar lines).code
      kept <+ lines ∧ kept.length = code ∧ classify grammar kept = ⟨code, code, .outside⟩ ∧
      keepCode grammar id kept = kept) ∧
    ∀ path (limit : Nat) content c, countContent path .codeOnly limit content = .ok c →
      (∀ mode, countContent path mode limit (stripped path content) = .ok ⟨path, c.code, c.code⟩) ∧
      stripped path (stripped path content) = stripped path content := by
  constructor
  · intro kept code
    have length : kept.length = code := by
      have counted := length_keepCode grammar id lines
      rwa [List.map_id] at counted
    have counted := classify_kept grammar id lines
    simp only [List.map_id] at counted
    rw [show (keepCode grammar id lines).length = code from length] at counted
    exact ⟨keepCode_sublist .., length, counted, keepCode_keepCode ..⟩
  · intro path limit content c counted
    refine ⟨fun mode => ?_, stripped_stripped path content⟩
    have fits : Fits limit content := by
      by_contra long
      rw [countContent_long path .codeOnly long] at counted
      cases counted
    have read := textLines_segments limit content
    rw [if_pos fits] at read
    simp only [countContent, read, Except.ok.injEq] at counted
    have code := length_keepCode (Language.detect path) segmentText (segments content)
    have reread := textLines_segments limit (stripped path content)
    rw [if_pos (fits_stripped fits), segments_stripped] at reread
    have again := classify_kept (Language.detect path) segmentText (segments content)
    have same : (keepCode (Language.detect path) segmentText (segments content)).length = c.code := by
      rw [code, ← counted]
      rfl
    simp only [countContent, reread]
    cases mode with
    | all => simp only [List.length_map, same]
    | codeOnly =>
      rw [show ((keepCode (Language.detect path) segmentText (segments content)).map fun s =>
        Text.Utf8.decodeReplacing (dropReturn s)) = List.map segmentText _ from rfl]
      simp only [again, same]

/-- A block comment with code behind it and a blank line: the line of code is left. -/
theorem countContent_stripped_block :
    let content : List UInt8 := [0x2F, 0x2A, 0x0A, 0x2A, 0x2F, 0x0D, 0x0A, 0x0A, 0x78]
    countContent "a.go" .codeOnly 3 content = .ok ⟨"a.go", 4, 1⟩ ∧
    stripped "a.go" content = [0x78, 0x0A] ∧
    countContent "a.go" .all 3 (stripped "a.go" content) = .ok ⟨"a.go", 1, 1⟩ := by
  intro content
  have counted : countContent "a.go" .codeOnly 3 content = .ok ⟨"a.go", 4, 1⟩ := by cbv
  refine ⟨counted, by cbv, ?_⟩
  exact ((countContent_stripped none []).2 "a.go" 3 content _ counted).1 .all

end LineBudget.Count
