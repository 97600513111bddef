import LineBudget.Proofs.Command.Stages
import LineBudget.Proofs.Config.Failures
import LineBudget.Proofs.Config.Load
import LineBudget.Proofs.Config.Violations

/-! What the checks on settings are good for: behind them, no stage of a run misses a mode, a limit
or a language. -/
namespace LineBudget.Command
open LineBudget.Files LineBudget.Config LineBudget.Scan LineBudget.Count LineBudget.Analysis
open scoped List

/-- Settings that say what the stages behind the configuration ask for: a mode that there is,
integers for all limits, and a language with messages. -/
structure Ready (settings : Settings) : Prop where
  mode : ∃ mode, settings.mode = .ok mode
  limits : ∃ limits, limits? settings = some limits
  language : ∃ name locale, settings.language = .text name ∧
    Message.Locale.ofName name = .ok locale

variable {settings : Settings} {flags : Option Overrides} {d : Disk} {target : Path}

theorem ready_of_valid (valid : settings.Valid) : Ready settings := by
  constructor
  case mode => exact valid.exists_mode
  case limits => exact exists_limits valid
  case language =>
    obtain ⟨name, known, spoken⟩ := valid.language
    have named : ∀ name ∈ languages, ∃ locale, Message.Locale.ofName name = .ok locale := by
      intro name member
      rcases List.mem_pair.mp member with rfl | rfl
      · exact ⟨.en, by decide⟩
      · exact ⟨.ja, by decide⟩
    obtain ⟨locale, found⟩ := named name known
    exact ⟨name, locale, spoken, found⟩

/-- Without flags valid settings stay as they are, and otherwise the result is checked again. -/
theorem apply_valid (valid : settings.Valid) (applied : (settings.apply flags).2 = .ok ()) :
    (settings.apply flags).1.Valid := by
  cases flags with
  | none => exact valid
  | some given => exact validate_eq_ok.mp applied

theorem finalLocale_of_ready (ready : Ready settings) (s : Surroundings) (given : Option String)
    (early : Message.Locale) (unchosen : chosenLanguage? s given = none) :
    ∃ name, settings.language = .text name ∧
      Message.Locale.ofName name = .ok (finalLocale s given early settings) := by
  obtain ⟨name, locale, spoken, found⟩ := ready.language
  refine ⟨name, spoken, ?_⟩
  simp only [finalLocale, unchosen, spoken, found, Option.isSome_none, Bool.false_eq_true, if_false]

/-- Behind valid settings an examination fails at the ignore file, in the scan or on a file. -/
theorem unexamined_of_error (valid : settings.Valid) {order : Nat → List Nat}
    (once : ∀ n, order n ~ List.range n) {setback : Setback}
    (failed : (examine d settings target order).result = .error setback) :
    Unexamined d settings target := by
  rcases examine_cases d target order once valid with ⟨unexamined, _⟩ | ⟨_, ended⟩
  · exact unexamined
  · cases failed.symm.trans ended

/-- Settings of any kind are checked without a comparison that could fail. They are accepted exactly
if every setting is as it should be, and otherwise the violations of exactly those that are not are
reported, once each and in a fixed order. Behind a configuration that was loaded and flags that were
accepted, the mode, the limits and the language are there, and an examination fails for other
reasons only. -/
theorem validate_exact (s : Settings) :
    (∀ (ε : Type) (c : Comparison ε), c.findings s = .ok s.violations) ∧
    (s.validate = .ok () ↔ ∀ v, s.Meets v) ∧
    (∀ violations, s.validate = .error violations ↔
      violations ≠ [] ∧ violations = Violation.inOrder.filter fun v => ¬ s.Meets v) ∧
    Violation.inOrder.map Violation.code = ["validation.max_lines_per_file",
      "validation.max_lines_per_directory", "validation.warning_threshold",
      "validation.count_mode", "validation.language"] ∧
    ∀ world config flags, (load world config).result = .ok s → (s.apply flags).2 = .ok () →
      let final := (s.apply flags).1
      Ready s ∧ Ready final ∧
      (∀ given early, chosenLanguage? world given = none → ∃ name, s.language = .text name ∧
        Message.Locale.ofName name = .ok (finalLocale world given early s)) ∧
      ∀ target order, (∀ n, order n ~ List.range n) →
        ∀ setback, (examine world.disk final target order).result = .error setback →
          Unexamined world.disk final target := by
  refine ⟨fun _ c => c.findings_eq s, validate_eq_ok_iff, fun _ => ?_, rfl, ?_⟩
  · rw [← violations_eq]
    exact validate_eq_error
  intro world config flags loaded applied final
  have valid := load_valid loaded
  have valid' : final.Valid := apply_valid valid applied
  refine ⟨ready_of_valid valid, ready_of_valid valid', ?_, ?_⟩
  · intro given early unchosen
    exact finalLocale_of_ready (ready_of_valid valid) world given early unchosen
  · intro target order once setback failed
    exact unexamined_of_error valid' once failed

/-- A truth value is no limit, and nothing is no language. A percentage of zero is given. -/
theorem validate_exact_mixed :
    let settings : Settings :=
      { rules := { maxFileLines := .bool true, warningThreshold := .int 101 }, language := .null }
    settings.validate = .error [.maxFileLines, .warningThreshold, .language] ∧
      Ready (({} : Settings).apply (some { warningThreshold := some (.int 0) })).1 := by
  intro settings
  obtain ⟨_, _, refused, _⟩ := validate_exact settings
  refine ⟨(refused _).mpr ⟨by decide, by decide⟩, ?_⟩
  obtain ⟨_, _, _, _, behind⟩ := validate_exact {}
  exact (behind (configured []) none _ (configured_load []) rfl).2.1

end LineBudget.Command
