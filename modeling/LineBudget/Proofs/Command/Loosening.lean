import LineBudget.Proofs.Command.Effective
import LineBudget.Proofs.Command.Modes
import LineBudget.Proofs.Command.Verdict

/-! Stricter rules against looser ones: row by row the same lines are held to bounds that are no
lower, so that no verdict is worse and a check that passed does not report an error. -/
namespace LineBudget.Analysis
open LineBudget.Count

/-- Limits against others of which none is lower. -/
structure Limits.Loosens (limits looser : Limits) : Prop where
  file : limits.file ≤ looser.file
  directory : limits.directory ≤ looser.directory
  percentage : limits.percentage ≤ looser.percentage

/-- A row on the same lines of the same subject, with bounds that are no lower and a verdict that is
no worse. -/
structure Row.Looser (row stricter : Row) : Prop where
  path : row.path = stricter.path
  subject : row.subject = stricter.subject
  lines : row.lines = stricter.lines
  limit : stricter.limit ≤ row.limit
  threshold : stricter.threshold ≤ row.threshold
  severity : row.severity.rank ≤ stricter.severity.rank

variable {limit limit' percentage percentage' : Int} {limits looser : Limits} {mode : Count.Mode}

/-- A percentage of a limit grows with both, and rounding down keeps the order. -/
theorem threshold_mono (natural : 0 ≤ limit) (natural' : 0 ≤ percentage) (more : limit ≤ limit')
    (more' : percentage ≤ percentage') :
    threshold limit percentage ≤ threshold limit' percentage' := by
  have product : limit * percentage ≤ limit' * percentage' :=
    mul_le_mul more more' natural' (natural.trans more)
  rw [threshold_eq, threshold_eq]
  exact add_le_add more (Int.ediv_le_ediv (by decide) product)

/-- The same lines against a limit and a percentage of which neither is lower. -/
theorem judge_loosened (lines : Int) (natural : 0 ≤ limit) (natural' : 0 ≤ percentage)
    (more : limit ≤ limit') (more' : percentage ≤ percentage') :
    (judge lines limit' (threshold limit' percentage')).rank ≤
      (judge lines limit (threshold limit percentage)).rank :=
  judge_rank (Int.le_refl _) more (threshold_mono natural natural' more more')

theorem fileRow_looser (valid : limits.Valid) (loosens : limits.Loosens looser) (c : FileCount) :
    (fileRow looser mode c).Looser (fileRow limits mode c) where
  path := rfl
  subject := rfl
  lines := rfl
  limit := loosens.file
  threshold := threshold_mono valid.file.le valid.percentage.1 loosens.file loosens.percentage
  severity := judge_loosened _ valid.file.le valid.percentage.1 loosens.file loosens.percentage

theorem directoryRow_looser (valid : limits.Valid) (loosens : limits.Loosens looser)
    (sums : List (String × Nat)) (place : String) :
    (directoryRow looser sums place).Looser (directoryRow limits sums place) where
  path := rfl
  subject := rfl
  lines := rfl
  limit := loosens.directory
  threshold :=
    threshold_mono valid.directory.le valid.percentage.1 loosens.directory loosens.percentage
  severity :=
    judge_loosened _ valid.directory.le valid.percentage.1 loosens.directory loosens.percentage

theorem analyze_looser (valid : limits.Valid) (loosens : limits.Loosens looser)
    (counts : List FileCount) (directories : List String) (mode : Count.Mode) :
    List.Forall₂ Row.Looser (analyze counts directories mode looser).rows
      (analyze counts directories mode limits).rows := by
  rw [analyze_rows, analyze_rows]
  apply List.rel_append
  · rw [List.forall₂_map_left_iff, List.forall₂_map_right_iff, List.forall₂_same]
    intro c _
    exact fileRow_looser valid loosens c
  · rw [List.forall₂_map_left_iff, List.forall₂_map_right_iff, List.forall₂_same]
    intro place _
    exact directoryRow_looser valid loosens _ place

theorem countP_errors_le {rows stricter : List Row}
    (loosened : List.Forall₂ Row.Looser rows stricter) :
    rows.countP (·.severity = .error) ≤ stricter.countP (·.severity = .error) := by
  induction loosened with
  | nil => exact Nat.le_refl _
  | @cons row other _ _ first _ ih =>
    rw [List.countP_cons, List.countP_cons]
    apply Nat.add_le_add ih
    by_cases wrong : row.severity = .error
    · have worst : other.severity = .error := by
        apply Severity.eq_error_of_rank
        rw [← wrong]
        exact first.severity
      rw [if_pos (by simpa using wrong), if_pos (by simpa using worst)]
    · rw [if_neg (by simpa using wrong)]
      exact Nat.zero_le _

theorem errors_le {r stricter : Report} (tallied : Tallied r) (tallied' : Tallied stricter)
    (loosened : List.Forall₂ Row.Looser r.rows stricter.rows) : r.errors ≤ stricter.errors := by
  rw [tallied.errors, tallied'.errors]
  exact countP_errors_le loosened

end LineBudget.Analysis

namespace LineBudget.Command
open LineBudget.Files LineBudget.Config LineBudget.Scan LineBudget.Count LineBudget.Analysis
open scoped List

/-- Two integers, the second one no smaller. -/
def NoSmaller (old new : Value) : Prop := ∃ n m, old = .int n ∧ new = .int m ∧ n ≤ m

/-- Settings against others that differ in their rules alone, where no rule has a smaller value. -/
structure Loosens (settings looser : Settings) : Prop where
  file : NoSmaller settings.rules.maxFileLines looser.rules.maxFileLines
  directory : NoSmaller settings.rules.maxDirectoryLines looser.rules.maxDirectoryLines
  percentage : NoSmaller settings.rules.warningThreshold looser.rules.warningThreshold
  others : looser = { settings with rules := looser.rules }

/-- Two checks of a target that looks the same to both, one with the settings and one with looser
ones. Their formats may differ. -/
structure Reruled (s s' : Surroundings) (request request' : CheckRequest)
    (settings looser : Settings) : Prop where
  target : request.target = request'.target
  language : request.language = request'.language
  alike : Alike s s' looser (Path.ofText request.target)
  loaded : ∃ c, (load s request.config).result = .ok c ∧ c.override request.overrides = settings
  loaded' : ∃ c, (load s' request'.config).result = .ok c ∧ c.override request'.overrides = looser

section Loosens
variable {settings looser : Settings} {limits limits' : Limits} {d : Disk} {target : Path}

theorem Loosens.bounds (loosens : Loosens settings looser) (limited : limits? settings = some limits)
    (limited' : limits? looser = some limits') : limits.Loosens limits' := by
  obtain ⟨file, file', fileGiven, fileGiven', file_le⟩ := loosens.file
  obtain ⟨directory, directory', directoryGiven, directoryGiven', directory_le⟩ := loosens.directory
  obtain ⟨percentage, percentage', percentageGiven, percentageGiven', percentage_le⟩ :=
    loosens.percentage
  rw [limits?, fileGiven, directoryGiven, percentageGiven] at limited
  rw [limits?, fileGiven', directoryGiven', percentageGiven'] at limited'
  cases limited
  cases limited'
  exact ⟨file_le, directory_le, percentage_le⟩

theorem Loosens.mode (loosens : Loosens settings looser) : looser.mode = settings.mode := by
  rw [loosens.others]
  rfl

/-- Neither the ignore file nor the scan nor the mode asks for the rules. -/
theorem Examined.reruled (x : Examined d settings target) (loosens : Loosens settings looser)
    (limited : limits? looser = some limits') :
    ∃ y : Examined d looser target, y.report =
      analyze (located x.counts x.listing.files) x.listing.directories x.mode limits' := by
  obtain ⟨user, listing, mode, _, counts, read, scanned, chosen, _, counted⟩ := x
  have read' : looser.userPatterns d (currentDirectory d) = .ok user := by
    rw [loosens.others]
    exact read
  have compiled : Scan.rules d looser = Scan.rules d settings := by
    rw [loosens.others]
    rfl
  have scanned' : (scan d looser target).result = .ok listing := by
    rw [← scanned]
    simp only [scan, compiled]
  exact ⟨⟨user, listing, mode, limits', counts, read', scanned', loosens.mode.trans chosen, limited,
    counted⟩, rfl⟩

/-- A report under looser settings has no more errors. -/
theorem Examined.loosened (x : Examined d settings target) (loosens : Loosens settings looser)
    (valid : settings.Valid) (valid' : looser.Valid) :
    ∃ y : Examined d looser target, List.Forall₂ Row.Looser y.report.rows x.report.rows ∧
      y.report.errors ≤ x.report.errors := by
  obtain ⟨limits', limited'⟩ := exists_limits valid'
  obtain ⟨y, report⟩ := x.reruled loosens limited'
  have rows : List.Forall₂ Row.Looser y.report.rows x.report.rows := by
    rw [report]
    exact analyze_looser (limits_valid valid x.limited) (loosens.bounds x.limited limited') ..
  exact ⟨y, rows, errors_le y.tallied x.tallied rows⟩

end Loosens

namespace Reruled
variable {s s' : Surroundings} {request request' : CheckRequest} {settings looser : Settings}
  {order order' : Nat → List Nat}

theorem begun (reruled : Reruled s s' request request' settings looser) (p : Passed s request)
    (valid' : looser.Valid) : Begun s' request' looser := by
  have asked : languageName s' request'.language = languageName s request.language := by
    rw [languageName, languageName, chosenLanguage?, chosenLanguage?, reruled.alike.language,
      reruled.language]
  exact ⟨⟨p.early, asked ▸ p.named⟩, reruled.loaded', valid'⟩

/-- Behind a check without errors, one under looser settings has no errors either. Its report is
written, unless an integer in it has too many digits. -/
theorem passes (reruled : Reruled s s' request request' settings looser) (valid : settings.Valid)
    (valid' : looser.Valid) (loosens : Loosens settings looser)
    (once : ∀ n, order n ~ List.range n) (once' : ∀ n, order' n ~ List.range n)
    (passed : (check s request order).exit = 0) :
    ∃ y : Examined s'.disk looser (Path.ofText request'.target), y.report.errors = 0 ∧
      Reported request'.format y.report (check s' request' order') := by
  rcases check_cases s request order once with ⟨_, exit, _⟩ | ⟨p, exit, _⟩
  · cases passed.symm.trans exit
  have clean : p.examined.report.errors = 0 := reportCode_eq_zero.mp (exit.symm.trans passed)
  obtain ⟨c, loaded, rfl⟩ := reruled.loaded
  cases loaded.symm.trans p.loaded
  obtain ⟨x, _, fewer⟩ := p.examined.loosened loosens valid valid'
  obtain ⟨y, same, _⟩ := reruled.alike.examined x rfl (congrArg Path.ofText reruled.target)
  refine ⟨y, ?_, (reruled.begun p valid').reported once' y⟩
  rw [same]
  omega

end Reruled

/-- To loosen the rules never worsens a verdict. Whatever was counted and listed, the reports agree
row by row in paths, subjects and lines, and under the looser settings no threshold is lower, no
verdict is worse, and there are no more errors. Of two checks of a target that differ in their rules
in this way, the second one ends with zero if the first one does, or else it has a report that
cannot be written. -/
theorem check_loosened (settings looser : Settings) (valid : settings.Valid)
    (valid' : looser.Valid) (loosens : Loosens settings looser) :
    (∃ mode limits limits', settings.mode = .ok mode ∧ looser.mode = .ok mode ∧
      limits? settings = some limits ∧ limits? looser = some limits' ∧
      ∀ (counts : List FileCount) (directories : List String),
        let stricter := analyze counts directories mode limits
        let loosened := analyze counts directories mode limits'
        List.Forall₂ Row.Looser loosened.rows stricter.rows ∧
          loosened.errors ≤ stricter.errors) ∧
    ∀ (s s' : Surroundings) (request request' : CheckRequest) (order order' : Nat → List Nat),
      (∀ n, order n ~ List.range n) → (∀ n, order' n ~ List.range n) →
      Reruled s s' request request' settings looser → (check s request order).exit = 0 →
      let ended := check s' request' order'
      ended.exit = 0 ∨ ended.exit = 2 ∧
        ∃ y : Examined s'.disk looser (Path.ofText request'.target),
          Report.isWritable request'.format y.report = false := by
  constructor
  · obtain ⟨mode, chosen⟩ := valid.exists_mode
    obtain ⟨limits, limited⟩ := exists_limits valid
    obtain ⟨limits', limited'⟩ := exists_limits valid'
    refine ⟨mode, limits, limits', chosen, loosens.mode.trans chosen, limited, limited', ?_⟩
    intro counts directories stricter loosened
    have rows := analyze_looser (limits_valid valid limited) (loosens.bounds limited limited')
      counts directories mode
    exact ⟨rows, errors_le (analyze_tallied ..) (analyze_tallied ..) rows⟩
  · intro s s' request request' order order' once once' reruled passed ended
    obtain ⟨y, clean, reported⟩ := reruled.passes valid valid' loosens once once' passed
    cases reported with
    | written _ _ _ exit _ => exact .inl (exit.trans (reportCode_eq_zero.mpr clean))
    | unwritable failed exit _ => exact .inr ⟨exit, y, failed⟩

/-- The limit for directories is just kept, and then raised by a line. -/
theorem check_loosened_raised :
    (check twoLines (inMode .text 2 .all) List.range).exit = 0 ∧
      (check twoLines (inMode .text 3 .all) List.range).exit = 0 := by
  have once (n : Nat) : List.range n ~ List.range n := List.Perm.refl _
  have kept : (check twoLines (inMode .text 2 .all) List.range).exit = 0 := by
    obtain ⟨x, listing, limits⟩ := exists_examined 2
    have counted : countEntry twoLines.disk (Path.ofText "src") .all ⟨["a"]⟩ =
        .ok ⟨"/src/a", 2, 2⟩ := by cbv
    have mode : x.mode = .all := Except.ok.inj (x.chosen.symm.trans (counting_mode _ .all))
    have counts : x.counts = [⟨"/src/a", 2, 2⟩] := by
      have each := x.counted
      rw [listing, mode, List.map_singleton, counted, ← List.map_singleton] at each
      exact List.map_injective_iff.mpr (fun _ _ => Except.ok.inj) each
    have clean : reportCode x.report = 0 := by
      rw [Examined.report, counts, listing, mode, limits]
      decide
    cases (inMode_begun .text (by decide) .all).reported once x with
    | written _ _ _ exit _ => exact exit.trans clean
    | unwritable failed _ _ => cases failed
  have loosens : Loosens (counting (inModeSettings 2) .all) (counting (inModeSettings 3) .all) :=
    ⟨⟨300, 300, rfl, rfl, by decide⟩, ⟨2, 3, rfl, rfl, by decide⟩, ⟨10, 10, rfl, rfl, by decide⟩, rfl⟩
  have before := inMode_begun .text (by decide : (0 : Int) < 2) .all
  have after := inMode_begun .text (by decide : (0 : Int) < 3) .all
  refine ⟨kept, ?_⟩
  rcases (check_loosened _ _ before.valid after.valid loosens).2 twoLines twoLines
    (inMode .text 2 .all) (inMode .text 3 .all) List.range List.range once once
    ⟨rfl, rfl, .refl .., before.loaded, after.loaded⟩ kept with passed | ⟨_, _, failed⟩
  · exact passed
  · cases failed

end LineBudget.Command
