import LineBudget.Proofs.Config.Validity

/-! The checks on settings, setting by setting: which violations are reported and in what order, and
that no check compares a value which is not an integer. -/
namespace LineBudget.Config

/-- All violations, in the order in which they are reported. -/
def Violation.inOrder : List Violation :=
  [.maxFileLines, .maxDirectoryLines, .warningThreshold, .countMode, .language]

/-- The setting that a violation is about is as it should be. -/
def Settings.Meets (s : Settings) : Violation → Prop
  | .maxFileLines => ∃ n, s.rules.maxFileLines = .int n ∧ 1 ≤ n
  | .maxDirectoryLines => ∃ n, s.rules.maxDirectoryLines = .int n ∧ 1 ≤ n
  | .warningThreshold => ∃ n, s.rules.warningThreshold = .int n ∧ 0 ≤ n ∧ n ≤ 100
  | .countMode => s.countMode = .text "all" ∨ s.countMode = .text "code_only"
  | .language => s.language = .text "en" ∨ s.language = .text "ja"

/-- What is known of the order of dynamic values: integers are compared as numbers. Any other
comparison may answer what it likes, or fail. -/
structure Comparison (ε : Type) where
  atMost : Value → Value → Except ε Bool
  integers : ∀ n m : Int, atMost (.int n) (.int m) = .ok (decide (n ≤ m))

/-- Truth values are no integers. -/
def isInteger : Value → Bool
  | .int _ => true
  | _ => false

namespace Comparison
variable {ε : Type}

/-- Whether a limit is refused: it is no integer, or else it is at most zero. -/
def refusesLimit (c : Comparison ε) (v : Value) : Except ε Bool :=
  if isInteger v then c.atMost v (.int 0) else .ok true

/-- Whether a percentage is refused: it is no integer, or else not between its bounds, of which the
upper one is only looked at behind the lower one. -/
def refusesPercentage (c : Comparison ε) (v : Value) : Except ε Bool :=
  if isInteger v then do
    if ← c.atMost (.int 0) v then return !(← c.atMost v (.int 100))
    else return true
  else .ok true

/-- The violations of settings, found step by step with comparisons that may fail. -/
def findings (c : Comparison ε) (s : Settings) : Except ε (List Violation) := do
  let file ← c.refusesLimit s.rules.maxFileLines
  let directory ← c.refusesLimit s.rules.maxDirectoryLines
  let percentage ← c.refusesPercentage s.rules.warningThreshold
  return (if file then [.maxFileLines] else []) ++
    (if directory then [.maxDirectoryLines] else []) ++
    (if percentage then [.warningThreshold] else []) ++
    (if isMode s.countMode then [] else [.countMode]) ++
    (if isLanguage s.language then [] else [.language])

theorem refusesLimit_eq (c : Comparison ε) (v : Value) :
    c.refusesLimit v = .ok (!isLimit v) := by
  cases v with
  | int n =>
    have opposite : decide (n ≤ 0) = !decide (0 < n) := by
      rw [← decide_not, decide_eq_decide]
      omega
    rw [refusesLimit, isInteger, if_pos rfl, c.integers, opposite]
    rfl
  | _ => rfl

theorem refusesPercentage_eq (c : Comparison ε) (v : Value) :
    c.refusesPercentage v = .ok (!isPercentage v) := by
  cases v with
  | int n =>
    simp only [refusesPercentage, isInteger, if_true, c.integers, isPercentage, bind, Except.bind]
    by_cases low : 0 ≤ n
    · simp [low, pure, Except.pure]
    · simp [low, pure, Except.pure]
  | _ => rfl

/-- No comparison that could fail is ever made. -/
theorem findings_eq (c : Comparison ε) (s : Settings) : c.findings s = .ok s.violations := by
  simp only [findings, refusesLimit_eq, refusesPercentage_eq, bind, Except.bind, pure, Except.pure,
    Settings.violations]
  cases isLimit s.rules.maxFileLines <;> cases isLimit s.rules.maxDirectoryLines <;>
    cases isPercentage s.rules.warningThreshold <;> rfl

end Comparison

/-- The check of the setting that a violation is about. -/
def Settings.passes (s : Settings) : Violation → Bool
  | .maxFileLines => isLimit s.rules.maxFileLines
  | .maxDirectoryLines => isLimit s.rules.maxDirectoryLines
  | .warningThreshold => isPercentage s.rules.warningThreshold
  | .countMode => isMode s.countMode
  | .language => isLanguage s.language

variable {s : Settings} {v : Violation}

theorem passes_iff : s.passes v = true ↔ s.Meets v := by
  cases v with
  | maxFileLines => exact isLimit_iff
  | maxDirectoryLines => exact isLimit_iff
  | warningThreshold => exact isPercentage_iff
  | countMode =>
    refine isMode_iff.trans ?_
    constructor
    · rintro ⟨mode, named⟩
      cases mode with
      | all => exact .inl named
      | codeOnly => exact .inr named
    · rintro (named | named)
      · exact ⟨.all, named⟩
      · exact ⟨.codeOnly, named⟩
  | language =>
    refine isLanguage_iff.trans ?_
    simp [languages, Settings.Meets]

instance (s : Settings) : DecidablePred s.Meets :=
  fun _ => decidable_of_iff _ passes_iff

/-- The violations are those of the settings that are not as they should be, in their order. -/
theorem violations_eq (s : Settings) :
    s.violations = Violation.inOrder.filter fun v => ¬ s.Meets v := by
  have one (v : Violation) :
      (if s.passes v then [] else [v]) = [v].filter fun v => ¬ s.Meets v := by
    simp only [← passes_iff]
    cases passed : s.passes v <;> simp [passed]
  calc s.violations
      = (if s.passes .maxFileLines then [] else [.maxFileLines]) ++
        (if s.passes .maxDirectoryLines then [] else [.maxDirectoryLines]) ++
        (if s.passes .warningThreshold then [] else [.warningThreshold]) ++
        (if s.passes .countMode then [] else [.countMode]) ++
        (if s.passes .language then [] else [.language]) := rfl
    _ = Violation.inOrder.filter fun v => ¬ s.Meets v := by
      simp only [one, ← List.filter_append]
      rfl

theorem validate_eq_ok_iff : s.validate = .ok () ↔ ∀ v, s.Meets v := by
  rw [validate_eq_ok, ← violations_eq_nil, violations_eq, List.filter_eq_nil_iff]
  constructor
  · intro none v
    have listed : v ∈ Violation.inOrder := by cases v <;> decide
    simpa using none v listed
  · intro all v _
    simpa using all v

end LineBudget.Config
