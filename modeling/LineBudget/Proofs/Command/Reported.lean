import LineBudget.Proofs.Analysis.Relaxation
import LineBudget.Proofs.Command.Stages

/-! Runs behind valid settings: they end before a report or with one, and a report that is no worse
ends a run no worse. -/
namespace LineBudget.Command
open LineBudget.Files LineBudget.Config LineBudget.Analysis
open scoped List

/-- The stages before the examination hand on valid settings. -/
structure Begun (s : Surroundings) (request : CheckRequest) (settings : Settings) : Prop where
  named : ∃ early, Message.Locale.ofName (languageName s request.language) = .ok early
  loaded : ∃ c, (load s request.config).result = .ok c ∧ c.override request.overrides = settings
  valid : settings.Valid

/-- A run ends with a report: it is written, unless an integer in it has too many digits. -/
inductive Reported (format : Report.Format) (r : Report) (ended : Outcome) : Prop
  | written (locale : Message.Locale) (warnings : List String)
    (writable : Report.isWritable format r = true) (exit : ended.exit = reportCode r)
    (output : ended.output = Report.render format locale false r warnings)
  | unwritable (failed : Report.isWritable format r = false) (exit : ended.exit = failureCode)
    (output : ended.output = "")

namespace Begun
variable {s : Surroundings} {request : CheckRequest} {settings : Settings}
  {order : Nat → List Nat}

/-- Behind valid settings, a stage of the examination fails, or the run ends with a report. -/
theorem cases (begun : Begun s request settings) (once : ∀ n, order n ~ List.range n) :
    (Unexamined s.disk settings (Path.ofText request.target) ∧
      (check s request order).exit = failureCode ∧
      (check s request order).output = "") ∨
    ∃ x : Examined s.disk settings (Path.ofText request.target),
      Reported request.format x.report (check s request order) := by
  obtain ⟨⟨early, named⟩, ⟨c, loaded, rfl⟩, valid⟩ := begun
  rcases check_cases s request order once with ⟨fails, exit, output⟩ | ⟨p, exit, output⟩
  · rcases fails.examining named loaded (validate_eq_ok.mpr valid) with failed | ⟨x, failed⟩
    · exact .inl ⟨failed, exit, output⟩
    · exact .inr ⟨x, .unwritable failed exit output⟩
  · obtain ⟨_, settings, _, found, _, x, writable⟩ := p
    obtain rfl : c = settings := Except.ok.inj (loaded.symm.trans found)
    exact .inr ⟨x, .written _ _ writable exit output⟩

theorem reported (begun : Begun s request settings) (once : ∀ n, order n ~ List.range n)
    (x : Examined s.disk settings (Path.ofText request.target)) :
    Reported request.format x.report (check s request order) := by
  rcases begun.cases once with ⟨failed, _⟩ | ⟨y, ended⟩
  · exact (failed.not_examined x).elim
  · exact x.unique y ▸ ended

end Begun

section Relaxed
variable {d d' : Disk} {settings settings' : Settings} {target : Path} {format : Report.Format}
  {ended ended' : Outcome}

theorem Examined.tallied (x : Examined d settings target) : Tallied x.report :=
  analyze_tallied ..

/-- A run whose report is no worse than that of another one ends no worse. -/
theorem Reported.exit_le (x : Examined d settings target) (y : Examined d' settings' target)
    (relaxes : y.report.Relaxes x.report) (reported : Reported format x.report ended)
    (reported' : Reported format y.report ended') : ended'.exit ≤ ended.exit := by
  have natural : ∀ row ∈ y.report.rows, 0 ≤ row.lines := fun _ => lines_nonneg
  have code : reportCode y.report ≤ reportCode x.report := by
    simp only [reportCode]
    by_cases failed : 0 < y.report.errors
    · rw [if_pos failed, if_pos (relaxes.errors y.tallied x.tallied failed)]
    · rw [if_neg failed]
      exact Nat.zero_le _
  cases reported with
  | written _ _ writable exit _ =>
    cases reported' with
    | written _ _ _ exit' _ =>
      rw [exit, exit']
      exact code
    | unwritable failed _ _ =>
      have writable' := Report.isWritable_of_relaxes relaxes natural y.tallied x.tallied writable
      cases failed.symm.trans writable'
  | unwritable _ exit _ =>
    -- The other run has failed, and no exit code of a report is above that of a failure.
    rw [exit]
    cases reported' with
    | written _ _ _ exit' _ =>
      rw [exit']
      rcases reportCode_le y.report with zero | one
      · exact zero ▸ by decide
      · exact one ▸ by decide
    | unwritable _ exit' _ => exact exit'.le

end Relaxed

end LineBudget.Command
