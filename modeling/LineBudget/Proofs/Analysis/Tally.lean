import LineBudget.Proofs.Analysis.Rows

/-! The counters that a report keeps beside its rows. -/
namespace LineBudget.Analysis

/-- The counters tell how many rows there are of each severity. -/
structure Tallied (r : Report) : Prop where
  errors : r.errors = r.rows.countP (·.severity = .error)
  warnings : r.warnings = r.rows.countP (·.severity = .warn)
  passed : r.passed = r.rows.countP (·.severity = .pass)

namespace Tallied
variable {r : Report}

theorem empty : Tallied {} where
  errors := rfl
  warnings := rfl
  passed := rfl

theorem record (tallied : Tallied r) (row : Row) : Tallied (r.record row) := by
  obtain ⟨errors, warnings, passed⟩ := tallied
  cases judged : row.severity with
  | pass => constructor <;> simp [Report.record, List.countP_append, *]
  | warn => constructor <;> simp [Report.record, List.countP_append, *]
  | error => constructor <;> simp [Report.record, List.countP_append, *]

theorem ofRows (rows : List Row) : Tallied (Report.ofRows rows) := by
  have onward (r : Report) (tallied : Tallied r) : Tallied (rows.foldl Report.record r) := by
    induction rows generalizing r with
    | nil => exact tallied
    | cons row rest ih => exact ih _ (tallied.record row)
  exact onward {} empty

/-- No row has a severity that is not counted. -/
theorem total (tallied : Tallied r) : r.total = r.rows.length := by
  have counted (rows : List Row) : rows.countP (·.severity = .error) +
      rows.countP (·.severity = .warn) + rows.countP (·.severity = .pass) = rows.length := by
    induction rows with
    | nil => rfl
    | cons row rest ih =>
      cases judged : row.severity <;> simp [judged] <;> omega
  rw [Report.total, tallied.errors, tallied.warnings, tallied.passed, counted]

theorem errors_pos (tallied : Tallied r) :
    0 < r.errors ↔ ∃ row ∈ r.rows, row.severity = .error := by
  rw [tallied.errors, List.countP_pos_iff]
  simp

end Tallied

theorem analyze_tallied (counts : List Count.FileCount) (directories : List String)
    (mode : Count.Mode) (limits : Limits) : Tallied (analyze counts directories mode limits) :=
  .ofRows _

end LineBudget.Analysis
