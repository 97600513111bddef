import LineBudget.Proofs.Command.Stages
import LineBudget.Proofs.Config.Load
import LineBudget.Proofs.Report.Verbatim

/-! The two ways in which a check can end, and what its report holds if no stage failed. -/
namespace LineBudget.Command
open LineBudget.Files LineBudget.Config LineBudget.Scan LineBudget.Count LineBudget.Analysis
open scoped List

/-- The row of a listed file has the lines that were counted in it. -/
structure FileRow (d : Disk) (target : Path) (mode : Count.Mode) (limits : Limits) (e : Entry)
    (row : Row) : Prop where
  subject : row.subject = .file
  path : row.path = slashed e.path
  counted : ∃ c, countEntry d target mode e = .ok c ∧ row.lines = c.lines mode
  limit : row.limit = limits.file
  most : row.threshold = threshold limits.file limits.percentage

structure DirectoryRow (limits : Limits) (place : String) (row : Row) : Prop where
  subject : row.subject = .directory
  path : row.path = shown place
  limit : row.limit = limits.directory
  most : row.threshold = threshold limits.directory limits.percentage

/-- A report on all that was listed: a row for each file, and behind them one for each directory,
both in the order of the listing, each with its verdict, and counters that agree with the rows. -/
structure Complete (d : Disk) (target : Path) (mode : Count.Mode) (limits : Limits)
    (listing : Listing) (r : Report) : Prop where
  rows : ∃ files directories, r.rows = files ++ directories ∧
    List.Forall₂ (FileRow d target mode limits) listing.files files ∧
    List.Forall₂ (DirectoryRow limits) listing.directories directories
  judged : ∀ row ∈ r.rows, row.severity = judge row.lines row.limit row.threshold
  errors : r.errors = r.rows.countP (·.severity = .error)
  warnings : r.warnings = r.rows.countP (·.severity = .warn)
  passed : r.passed = r.rows.countP (·.severity = .pass)
  total : r.total = r.rows.length

section Rows
variable {d : Disk} {settings : Settings} {target : Path} {mode : Count.Mode}
  {counts : List FileCount} {files : List Entry}

theorem fileRows (limits : Limits)
    (counted : counts.map .ok = files.map (countEntry d target mode)) :
    List.Forall₂ (FileRow d target mode limits) files
      ((located counts files).map (fileRow limits mode)) := by
  induction files generalizing counts with
  | nil => simp [located]
  | cons e rest ih =>
    cases counts with
    | nil => cases counted
    | cons c later =>
      obtain ⟨here, others⟩ := List.cons.inj counted
      refine .cons ⟨rfl, rfl, ⟨c, here.symm, ?_⟩, rfl, rfl⟩ (ih others)
      cases mode <;> rfl

theorem directoryRows (limits : Limits) (sums : List (String × Nat)) (directories : List String) :
    List.Forall₂ (DirectoryRow limits) directories
      (directories.map (directoryRow limits sums)) := by
  rw [List.forall₂_map_right_iff, List.forall₂_same]
  exact fun place _ => ⟨rfl, rfl, rfl, rfl⟩

theorem Examined.complete (x : Examined d settings target) :
    Complete d target x.mode x.limits x.listing x.report where
  rows := ⟨_, _, analyze_rows .., fileRows x.limits x.counted, directoryRows ..⟩
  judged row member := by
    rw [Examined.report, analyze_rows, List.mem_append, List.mem_map, List.mem_map] at member
    rcases member with ⟨c, _, rfl⟩ | ⟨place, _, rfl⟩
    · rfl
    · rfl
  errors := (analyze_tallied ..).errors
  warnings := (analyze_tallied ..).warnings
  passed := (analyze_tallied ..).passed
  total := (analyze_tallied ..).total

end Rows

/-- A disk with a target that holds one file of two lines. -/
def twoLines : Surroundings :=
  configured [("src", .directory [("a", .file [0x78, 0x0A, 0x79, 0x0A] true)] {})]

end LineBudget.Command
