import LineBudget.Config.Overrides
import Mathlib.Tactic.Common

/-! What settings have to say to be valid. -/
namespace LineBudget.Config

/-- The limits are positive, the percentage is one, and the mode and the language have a name that
is known. -/
structure Settings.Valid (s : Settings) : Prop where
  file : ∃ n, s.rules.maxFileLines = .int n ∧ 0 < n
  directory : ∃ n, s.rules.maxDirectoryLines = .int n ∧ 0 < n
  percentage : ∃ n, s.rules.warningThreshold = .int n ∧ 0 ≤ n ∧ n ≤ 100
  mode : ∃ mode : Count.Mode, s.countMode = .text mode.name
  language : ∃ name ∈ languages, s.language = .text name

variable {s : Settings} {v : Value}

theorem isLimit_iff : isLimit v = true ↔ ∃ n, v = .int n ∧ 0 < n := by
  cases v <;> simp [isLimit]

theorem isPercentage_iff : isPercentage v = true ↔ ∃ n, v = .int n ∧ 0 ≤ n ∧ n ≤ 100 := by
  cases v <;> simp [isPercentage]

theorem name_of_ofName? {name : String} {mode : Count.Mode}
    (found : Count.Mode.ofName? name = some mode) : name = mode.name := by
  unfold Count.Mode.ofName? at found
  split_ifs at found with all codeOnly
  · cases found
    exact all
  · cases found
    exact codeOnly

theorem isMode_iff : isMode v = true ↔ ∃ mode : Count.Mode, v = .text mode.name := by
  constructor
  · intro known
    cases v with
    | text name =>
      obtain ⟨mode, found⟩ := Option.isSome_iff_exists.mp known
      exact ⟨mode, by rw [name_of_ofName? found]⟩
    | _ => cases known
  · rintro ⟨mode, rfl⟩
    simp [isMode, Count.Mode.ofName?_name]

theorem isLanguage_iff : isLanguage v = true ↔ ∃ name ∈ languages, v = .text name := by
  cases v <;> simp [isLanguage]

theorem violations_eq_nil : s.violations = [] ↔ s.Valid := by
  simp only [Settings.violations, List.append_eq_nil_iff, ite_eq_left_iff, List.cons_ne_nil,
    imp_false, not_not, isLimit_iff, isPercentage_iff, isMode_iff, isLanguage_iff]
  exact ⟨fun ⟨⟨⟨⟨file, directory⟩, percentage⟩, mode⟩, language⟩ =>
      ⟨file, directory, percentage, mode, language⟩,
    fun ⟨file, directory, percentage, mode, language⟩ =>
      ⟨⟨⟨⟨file, directory⟩, percentage⟩, mode⟩, language⟩⟩

/-- The checks let settings through exactly if these are valid. -/
theorem validate_eq_ok : s.validate = .ok () ↔ s.Valid := by
  rw [← violations_eq_nil]
  unfold Settings.validate
  cases s.violations <;> simp

theorem validate_eq_error {violations : List Violation} :
    s.validate = .error violations ↔ violations ≠ [] ∧ violations = s.violations := by
  rw [Settings.validate]
  cases found : s.violations with
  | nil => simp
  | cons first rest =>
    simp only [Except.error.injEq]
    constructor
    · rintro rfl
      exact ⟨List.cons_ne_nil _ _, rfl⟩
    · rintro ⟨_, same⟩
      exact same.symm

theorem Settings.Valid.exists_mode (valid : s.Valid) : ∃ mode, s.mode = .ok mode := by
  obtain ⟨mode, named⟩ := valid.mode
  refine ⟨mode, ?_⟩
  rw [Settings.mode, named, modeOfValue, Count.Mode.ofName?_name]

end LineBudget.Config
