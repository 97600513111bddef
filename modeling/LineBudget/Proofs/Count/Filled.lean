import LineBudget.Proofs.Count.Modes
import LineBudget.Proofs.Count.Stripping
import LineBudget.Proofs.Line.Spacing

/-! The lines of a file that are not blank: they bound its lines of code from above, and where the
language of the file is not known they are its lines of code. -/
namespace LineBudget.Count
open LineBudget.Files LineBudget.Language LineBudget.Line LineBudget.Text

/-- How many segments have a text that is not made of blanks alone. -/
def filledLines (content : List UInt8) : Nat :=
  ((segments content).map segmentText).countP (¬ Blanks ·)

variable {path : String} {limit : Nat} {content : List UInt8}

/-- Blank lines can be left out before code is counted. -/
theorem classify_filled (grammar : Option Grammar) (lines : List (List Char)) :
    (classify grammar lines).code = (classify grammar (lines.filter (¬ Blanks ·))).code := by
  rw [classify_skip grammar (respaced_filled lines)]
  rfl

theorem classify_code_le_filled (grammar : Option Grammar) (lines : List (List Char)) :
    (classify grammar lines).code ≤ lines.countP (¬ Blanks ·) := by
  rw [classify_filled, List.countP_eq_length_filter]
  exact classify_code_le grammar _

theorem addsCode_filled {line : List Char} (filled : ¬ Blanks line) : AddsCode none line := by
  intro t outside
  simp [Tally.add, trim_eq_nil_iff, filled, outside]

/-- Without a grammar, every line is code that is not blank. -/
theorem classify_none (lines : List (List Char)) :
    (classify none lines).code = lines.countP (¬ Blanks ·) := by
  have all : ∀ line ∈ lines.filter (¬ Blanks ·), AddsCode none line := fun line member =>
    addsCode_filled (by simpa using (List.mem_filter.mp member).2)
  rw [classify_filled, classify, foldl_addsCode all rfl, List.countP_eq_length_filter]
  exact Nat.zero_add _

/-- The lines of code among the segments of a content. -/
def codeLines (path : String) (content : List UInt8) : Nat :=
  (classify (detect path) ((segments content).map segmentText)).code

theorem countContent_all (path : String) (fits : Fits limit content) :
    countContent path .all limit content =
      .ok ⟨path, (segments content).length, (segments content).length⟩ := by
  rw [countContent, textLines_segments, if_pos fits]
  simp only [List.length_map]

theorem countContent_codeOnly (path : String) (fits : Fits limit content) :
    countContent path .codeOnly limit content =
      .ok ⟨path, (segments content).length, codeLines path content⟩ := by
  rw [countContent, textLines_segments, if_pos fits]
  simp only [classify_total, List.length_map]
  rfl

theorem codeLines_le (path : String) (content : List UInt8) :
    codeLines path content ≤ filledLines content := classify_code_le_filled ..

theorem filledLines_le (content : List UInt8) : filledLines content ≤ (segments content).length :=
  List.countP_le_length.trans_eq (List.length_map _)

theorem codeLines_unknown (unknown : detect path = none) (content : List UInt8) :
    codeLines path content = filledLines content := by
  rw [codeLines, unknown, classify_none, filledLines]

/-- A file fails in both modes with the same failure, or is counted in both. Both counts then have
its path and as many lines as there are segments. Where all lines count, all of these are lines of
code. Otherwise no blank one is, and all others are if the language is not known. -/
theorem countFile_agrees (d : Disk) (path : String) (limit : Nat) :
    (∃ failure, ∀ mode, countFile d path mode limit = .error failure) ∨
    ∃ content code, d.read (Path.ofText path) = .ok content ∧
      let total := (segments content).length
      countFile d path .all limit = .ok { path, total, code := total } ∧
      countFile d path .codeOnly limit = .ok { path, total, code } ∧
      code ≤ filledLines content ∧ filledLines content ≤ total ∧
      (detect path = none → code = filledLines content) := by
  rcases countFile_modes d path limit with failed | ⟨c, _, counted, _⟩
  · exact .inl failed
  · obtain ⟨content, read, fits⟩ := countFile_ok_iff.mp ⟨c, counted⟩
    refine .inr ⟨content, codeLines path content, read, ?_, ?_, codeLines_le path content,
      filledLines_le content, fun unknown => codeLines_unknown unknown content⟩
    · rw [countFile_read .all limit read, countContent_all path fits]
    · rw [countFile_read .codeOnly limit read, countContent_codeOnly path fits]

/-- An octet that is no text still fills its line. -/
theorem countFile_agrees_unknown :
    let content : List UInt8 := [0x78, 0x0A, 0x20, 0x0A, 0xFF]
    detect "a" = none ∧ countFile (withFile "a" content) "a" .codeOnly 1 = .ok ⟨"a", 3, 2⟩ := by
  intro content
  have unknown : detect "a" = none := by cbv
  have read : (withFile "a" content).read (Path.ofText "a") = .ok content := by cbv
  refine ⟨unknown, ?_⟩
  rcases countFile_agrees (withFile "a" content) "a" 1 with
    ⟨failure, failed⟩ | ⟨_, code, there, _, counted, _, _, filled⟩
  · have fits : Fits 1 content := by decide
    have counted := countContent_all "a" fits
    rw [← countFile_read .all _ read, failed .all] at counted
    cases counted
  · cases read.symm.trans there
    have texts : (segments content).map segmentText = [['x'], [' '], ['\uFFFD']] := by cbv
    rw [filled unknown, filledLines, texts] at counted
    exact counted

end LineBudget.Count
