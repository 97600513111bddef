import LineBudget.Proofs.Command.Ending
import LineBudget.Proofs.Command.Reported
import LineBudget.Proofs.Count.Modes

/-! A check of the lines of code against a check of all lines: it fails before its report on the
same targets, and its report is no worse. -/
namespace LineBudget.Command
open LineBudget.Files LineBudget.Config LineBudget.Scan LineBudget.Count LineBudget.Analysis
open scoped List

/-- The settings with a mode of counting. -/
def counting (settings : Settings) (mode : Count.Mode) : Settings :=
  { settings with countMode := .text mode.name }

section Modes
variable {d : Disk} {settings : Settings} {target : Path} {mode mode' : Count.Mode} {e : Entry}
  {files : List Entry} {counts counts' : List FileCount}

theorem counting_mode (settings : Settings) (mode : Count.Mode) :
    (counting settings mode).mode = .ok mode := by
  rw [Settings.mode, counting, modeOfValue, Count.Mode.ofName?_name]

end Modes

/-- A check of a target in a mode, with a limit for its directories. -/
def inMode (format : Report.Format) (limit : Int) (mode : Count.Mode) : CheckRequest := {
  target := "src"
  format
  overrides := {
    maxDirectoryLines := some (.int limit)
    countMode := some (.text mode.name)
    noDefaultExcludes := true } }

/-- The settings that come of these flags. -/
def inModeSettings (limit : Int) : Settings :=
  { rules := { maxDirectoryLines := .int limit }, defaultExcludes := false }

theorem inMode_begun (format : Report.Format) {limit : Int} (positive : 0 < limit)
    (mode : Count.Mode) :
    Begun twoLines (inMode format limit mode) (counting (inModeSettings limit) mode) where
  named := ⟨.en, by cbv⟩
  loaded := ⟨{}, configured_load _, rfl⟩
  valid := ⟨⟨300, rfl, by decide⟩, ⟨limit, rfl, positive⟩, ⟨10, rfl, by decide⟩, ⟨mode, rfl⟩,
    ⟨"en", by decide, rfl⟩⟩

/-- The examination of the target, whose one file stands in the target itself. -/
theorem exists_examined (limit : Int) : ∃ x : Examined twoLines.disk
    (counting (inModeSettings limit) .all) (Path.ofText "src"),
      x.listing = ⟨[⟨["a"]⟩]⟩ ∧ x.limits = ⟨300, limit, 10⟩ := by
  have unfiltered := rules_unfiltered (d := twoLines.disk)
    (s := counting (inModeSettings limit) .all) rfl rfl (configured_unignored (by decide))
    (by decide)
  have reached : directoryOfTarget twoLines.disk (Path.ofText "src") = .ok ⟨1, ["src"]⟩ := by cbv
  have scanned : (scan twoLines.disk (counting (inModeSettings limit) .all)
      (Path.ofText "src")).result = .ok ⟨[⟨["a"]⟩]⟩ := by
    simp only [scan, reached, unfiltered.2]
    cbv
  have counted : countEntry twoLines.disk (Path.ofText "src") .all ⟨["a"]⟩ =
      .ok ⟨"/src/a", 2, 2⟩ := by cbv
  exact ⟨⟨⟨[], []⟩, ⟨[⟨["a"]⟩]⟩, .all, ⟨300, limit, 10⟩, [⟨"/src/a", 2, 2⟩], unfiltered.1, scanned,
    counting_mode _ .all, rfl, congrArg ([·]) counted.symm⟩, rfl, rfl⟩

end LineBudget.Command
