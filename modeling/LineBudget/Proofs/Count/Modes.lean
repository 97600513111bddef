import LineBudget.Proofs.Count.Content

/-! The two modes of counting compared: they fail on the same files, and otherwise no file has more
lines of code than lines. -/
namespace LineBudget.Count
open LineBudget.Files LineBudget.Line

/-- Code lines are told among the lines, each of them once. -/
theorem classify_code_le (grammar : Option Language.Grammar) (lines : List (List Char)) :
    (classify grammar lines).code ≤ lines.length := by
  rw [(agrees_whole grammar lines).code]
  exact Nat.count_le _

theorem countContent_modes (path : String) (limit : Int) (content : List UInt8) :
    (∃ failure, ∀ mode, countContent path mode limit content = .error failure) ∨
    ∃ c c', countContent path .all limit content = .ok c ∧
      countContent path .codeOnly limit content = .ok c' ∧ c'.code ≤ c.total := by
  cases read : textLines limit content with
  | error tooLong =>
    refine .inl ⟨.lineTooLong path tooLong.limit, ?_⟩
    intro mode
    rw [countContent, read]
  | ok lines =>
    obtain ⟨tally, same⟩ : ∃ tally, tally = classify (Language.detect path) lines := ⟨_, rfl⟩
    refine .inr ⟨⟨path, lines.length, lines.length⟩, ⟨path, tally.total, tally.code⟩, ?_, ?_, ?_⟩
    · rw [countContent, read]
    · rw [countContent, read, same]
    · exact same ▸ classify_code_le (Language.detect path) lines

/-- What cannot be counted in one mode fails in the same way in the other one. -/
theorem countFile_modes (d : Disk) (path : String) (limit : Int) :
    (∃ failure, ∀ mode, countFile d path mode limit = .error failure) ∨
    ∃ c c', countFile d path .all limit = .ok c ∧ countFile d path .codeOnly limit = .ok c' ∧
      c'.code ≤ c.total := by
  cases read : d.read (Path.ofText path) with
  | ok content =>
    simp only [countFile_read _ limit read]
    exact countContent_modes path limit content
  | error failure =>
    left
    cases failure with
    | nulInPath =>
      refine ⟨.nulInPath path, ?_⟩
      intro mode
      rw [countFile, read]
    | refused refusal =>
      refine ⟨.unreadable path refusal, ?_⟩
      intro mode
      rw [countFile, read]

end LineBudget.Count
