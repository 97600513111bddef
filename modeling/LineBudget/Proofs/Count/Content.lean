import LineBudget.Count.File
import LineBudget.Proofs.Line.Coverage
import LineBudget.Proofs.Line.Segment
import Mathlib

/-! The counts of a file, told from its whole content: there are as many lines as segments, and a
file with a segment beyond the limit is refused in either mode. -/
namespace LineBudget.Count
open LineBudget.Files LineBudget.Line

variable {d : Disk} {path : String} {mode : Mode} {limit : Nat} {content other : List UInt8}

theorem textLines_segments (limit : Nat) (content : List UInt8) :
    textLines limit content =
      if Fits limit content then
        .ok ((segments content).map fun s => Text.Utf8.decodeReplacing (dropReturn s))
      else .error ⟨limit⟩ := by
  rw [textLines, octetLines_segments]
  split
  · simp [Except.map]
  · rfl

theorem classify_total (grammar : Option Language.Grammar) (lines : List (List Char)) :
    (classify grammar lines).total = lines.length := (agrees_whole grammar lines).total

theorem countContent_fits (path : String) (mode : Mode) (fits : Fits limit content) :
    ∃ c, countContent path mode limit content = .ok c ∧ c.path = path ∧
      c.total = (segments content).length := by
  have read := textLines_segments limit content
  rw [if_pos fits] at read
  rw [countContent, read]
  cases mode with
  | all => exact ⟨_, rfl, rfl, by simp⟩
  | codeOnly => exact ⟨_, rfl, rfl, by simp [classify_total]⟩

theorem countContent_long (path : String) (mode : Mode) (long : ¬ Fits limit content) :
    countContent path mode limit content = .error (.lineTooLong path limit) := by
  have read := textLines_segments limit content
  rw [if_neg long] at read
  rw [countContent, read]

theorem countFile_read (mode : Mode) (limit : Int)
    (read : d.read (Path.ofText path) = .ok content) :
    countFile d path mode limit = countContent path mode limit content := by
  rw [countFile, read]

theorem countFile_eq_ok {limit : Int} {c : FileCount} : countFile d path mode limit = .ok c ↔
    ∃ content, d.read (Path.ofText path) = .ok content ∧
      countContent path mode limit content = .ok c := by
  constructor
  · intro counted
    cases read : d.read (Path.ofText path) with
    | error failure =>
      rw [countFile, read] at counted
      cases failure <;> cases counted
    | ok content => exact ⟨content, rfl, (countFile_read mode limit read).symm.trans counted⟩
  · rintro ⟨content, read, counted⟩
    exact (countFile_read mode limit read).trans counted

/-- A file is counted exactly if it can be read and all of its segments fit. -/
theorem countFile_ok_iff : (∃ c, countFile d path mode limit = .ok c) ↔
    ∃ content, d.read (Path.ofText path) = .ok content ∧ Fits limit content := by
  constructor
  · rintro ⟨c, counted⟩
    obtain ⟨content, read, counted⟩ := countFile_eq_ok.mp counted
    refine ⟨content, read, ?_⟩
    by_contra long
    cases (countContent_long path mode long).symm.trans counted
  · rintro ⟨content, read, fits⟩
    obtain ⟨c, counted, _⟩ := countContent_fits path mode fits
    exact ⟨c, (countFile_read mode limit read).trans counted⟩

/-- A disk with a single file. -/
def withFile (name : String) (content : List UInt8) : Disk :=
  { root := .directory [(name, .file content true)] {} }

section Returns

theorem countContent_congr (path : String) (mode : Mode) {limit : Int}
    (same : textLines limit content = textLines limit other) :
    countContent path mode limit content = countContent path mode limit other := by
  rw [countContent, countContent, same]

/-- Where both contents fit, the lines are the same ones. -/
theorem textLines_withReturns (clean : carriageReturn ∉ content)
    (fits : Fits limit (withReturns content)) :
    textLines limit (withReturns content) = textLines limit content := by
  have plain := ((fits_withReturns limit content).mp fits).1
  rw [textLines, textLines, octetLines_segments, octetLines_segments, if_pos fits, if_pos plain,
    lines_withReturns clean]

/-- Carriage returns in front of the line feeds leave the outcome as it is unless a line that a
line feed ends has exactly as many octets as the limit. Where all lines fit and there is such a
line, the file without carriage returns is counted and the one with them is refused. -/
theorem countFile_withReturns (plain returning : Disk) (path : String) (mode : Mode) (limit : Nat)
    (content : List UInt8) (clean : carriageReturn ∉ content)
    (read : plain.read (Path.ofText path) = .ok content)
    (reread : returning.read (Path.ofText path) = .ok (withReturns content)) :
    (countFile returning path mode limit = countFile plain path mode limit ↔
      ((∀ s ∈ segments content, s.length ≤ limit) → ∀ s ∈ terminated content, s.length ≠ limit)) ∧
    ((∀ s ∈ segments content, s.length ≤ limit) → (∃ s ∈ terminated content, s.length = limit) →
      (∃ c, countFile plain path mode limit = .ok c) ∧
      countFile returning path mode limit = .error (.lineTooLong path limit)) := by
  rw [countFile_read mode limit read, countFile_read mode limit reread]
  have refused (fits : Fits limit content) (full : ∃ s ∈ terminated content, s.length = limit) :
      (∃ c, countContent path mode limit content = .ok c) ∧
        countContent path mode limit (withReturns content) = .error (.lineTooLong path limit) := by
    obtain ⟨c, counted, _⟩ := countContent_fits path mode fits
    obtain ⟨s, member, same⟩ := full
    refine ⟨⟨c, counted⟩, countContent_long path mode fun both => ?_⟩
    exact ((fits_withReturns limit content).mp both).2 s member same
  refine ⟨⟨fun same fits s member full => ?_, fun short => ?_⟩, refused⟩
  · obtain ⟨⟨c, counted⟩, failed⟩ := refused fits ⟨s, member, full⟩
    cases failed.symm.trans (same.trans counted)
  · by_cases fits : Fits limit content
    · have both := (fits_withReturns limit content).mpr ⟨fits, short fits⟩
      exact countContent_congr path mode (textLines_withReturns clean both)
    · have long : ¬ Fits limit (withReturns content) := fun both =>
        fits ((fits_withReturns limit content).mp both).1
      rw [countContent_long path mode fits, countContent_long path mode long]

/-- The last line may have as many octets as the limit where no line feed ends it. -/
theorem countFile_withReturns_last :
    countFile (withFile "a" [0x78, 0x0D, 0x0A, 0x78, 0x79]) "a" .codeOnly 2 =
      countFile (withFile "a" [0x78, 0x0A, 0x78, 0x79]) "a" .codeOnly 2 := by
  have read : (withFile "a" [0x78, 0x0A, 0x78, 0x79]).read (Path.ofText "a") =
      .ok [0x78, 0x0A, 0x78, 0x79] := by cbv
  have reread : (withFile "a" [0x78, 0x0D, 0x0A, 0x78, 0x79]).read (Path.ofText "a") =
      .ok (withReturns [0x78, 0x0A, 0x78, 0x79]) := by cbv
  exact (countFile_withReturns _ _ "a" .codeOnly 2 _ (by decide) read reread).1.mpr (by decide)

/-- A line of three octets fits a limit of three before a line feed, but not before a carriage
return and a line feed. -/
theorem countFile_withReturns_full :
    withReturns [0x61, 0x62, 0x63, 0x0A] = [0x61, 0x62, 0x63, 0x0D, 0x0A] ∧
    countFile (withFile "a" [0x61, 0x62, 0x63, 0x0A]) "a" .all 3 = .ok ⟨"a", 1, 1⟩ ∧
    countFile (withFile "a" [0x61, 0x62, 0x63, 0x0D, 0x0A]) "a" .all 3 =
      .error (.lineTooLong "a" 3) := by
  refine ⟨by decide, ?_, ?_⟩
  · cbv
  · cbv

end Returns
end LineBudget.Count
