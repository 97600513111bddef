import LineBudget.Proofs.Analysis.Rows
import LineBudget.Proofs.Command.Stages

/-! Verdicts against the exact percentage. The threshold is rounded down, and numbers of lines are
whole, so that no row is judged otherwise than by the exact fraction of its limit. -/
namespace LineBudget.Analysis
open LineBudget.Count

/-- Limits as validated settings have them. -/
structure Limits.Valid (limits : Limits) : Prop where
  file : 0 < limits.file
  directory : 0 < limits.directory
  percentage : 0 ≤ limits.percentage ∧ limits.percentage ≤ 100

/-- The limit that applies to a subject. -/
def Limits.of (limits : Limits) : Subject → Int
  | .file => limits.file
  | .directory => limits.directory

/-- The row shows its limit and a threshold of at most twice the limit, and it is judged by the
percentage of the limit by which its lines go beyond it. -/
structure Row.Exact (row : Row) (limit percentage : Int) : Prop where
  limit_eq : row.limit = limit
  least : limit ≤ row.threshold
  most : row.threshold ≤ 2 * limit
  pass : row.severity = .pass ↔ row.lines ≤ limit
  warn : row.severity = .warn ↔
    limit < row.lines ∧ 100 * (row.lines - limit) ≤ limit * percentage
  error : row.severity = .error ↔
    limit < row.lines ∧ limit * percentage < 100 * (row.lines - limit)
  strict : percentage = 0 → row.severity ≠ .warn

variable {lines limit percentage most : Int} {limits : Limits} {row : Row}

theorem threshold_eq (limit percentage : Int) :
    threshold limit percentage = limit + limit * percentage / 100 := by
  rw [threshold, Int.fdiv_eq_ediv_of_nonneg _ (by decide)]

/-- Rounding down keeps every whole number on its side of the fraction. -/
theorem le_threshold_iff : lines ≤ threshold limit percentage ↔
    100 * (lines - limit) ≤ limit * percentage := by
  rw [threshold_eq]
  calc lines ≤ limit + limit * percentage / 100
      ↔ lines - limit ≤ limit * percentage / 100 := sub_le_iff_le_add'.symm
    _ ↔ (lines - limit) * 100 ≤ limit * percentage := Int.le_ediv_iff_mul_le (by decide)
    _ ↔ 100 * (lines - limit) ≤ limit * percentage := by rw [mul_comm]

theorem threshold_lt_iff : threshold limit percentage < lines ↔
    limit * percentage < 100 * (lines - limit) := lt_iff_lt_of_le_iff_le le_threshold_iff

theorem le_threshold (positive : 0 < limit) (natural : 0 ≤ percentage) :
    limit ≤ threshold limit percentage := by
  rw [le_threshold_iff, sub_self, mul_zero]
  exact mul_nonneg positive.le natural

theorem threshold_le (positive : 0 < limit) (within : percentage ≤ 100) :
    threshold limit percentage ≤ 2 * limit := by
  have part : limit * percentage / 100 ≤ limit :=
    Int.ediv_le_of_le_mul (by decide) (mul_le_mul_of_nonneg_left within positive.le)
  rw [threshold_eq]
  omega

theorem judge_pass_iff : judge lines limit most = .pass ↔ lines ≤ limit := by
  unfold judge
  split_ifs <;> simp_all

theorem judge_warn_iff : judge lines limit most = .warn ↔ limit < lines ∧ lines ≤ most := by
  unfold judge
  split_ifs <;> simp_all

theorem judge_error_iff : judge lines limit most = .error ↔ limit < lines ∧ most < lines := by
  unfold judge
  split_ifs <;> simp_all

/-- A row that is judged by the threshold of its limit is judged exactly. -/
theorem exact_of_judged (positive : 0 < limit) (range : 0 ≤ percentage ∧ percentage ≤ 100)
    (limited : row.limit = limit) (bounded : row.threshold = threshold limit percentage)
    (judged : row.severity = judge row.lines limit (threshold limit percentage)) :
    row.Exact limit percentage where
  limit_eq := limited
  least := bounded ▸ le_threshold positive range.1
  most := bounded ▸ threshold_le positive range.2
  pass := by rw [judged, judge_pass_iff]
  warn := by rw [judged, judge_warn_iff, le_threshold_iff]
  error := by rw [judged, judge_error_iff, threshold_lt_iff]
  strict none warned := by
    rw [judged, judge_warn_iff, le_threshold_iff, none, mul_zero] at warned
    omega

theorem exact_of_mem (valid : limits.Valid) {counts : List FileCount} {directories : List String}
    {mode : Count.Mode} (member : row ∈ (analyze counts directories mode limits).rows) :
    row.Exact (limits.of row.subject) limits.percentage := by
  rw [analyze_rows, List.mem_append, List.mem_map, List.mem_map] at member
  rcases member with ⟨c, _, rfl⟩ | ⟨place, _, rfl⟩
  · exact exact_of_judged valid.file valid.percentage rfl rfl rfl
  · exact exact_of_judged valid.directory valid.percentage rfl rfl rfl

end LineBudget.Analysis

namespace LineBudget.Command
open LineBudget.Analysis LineBudget.Config LineBudget.Count

theorem limits_valid {settings : Settings} {limits : Limits} (valid : settings.Valid)
    (limited : limits? settings = some limits) : limits.Valid := by
  obtain ⟨file, fileGiven, filePositive⟩ := valid.file
  obtain ⟨directory, directoryGiven, directoryPositive⟩ := valid.directory
  obtain ⟨percentage, percentageGiven, range⟩ := valid.percentage
  rw [limits?, fileGiven, directoryGiven, percentageGiven] at limited
  cases limited
  exact ⟨filePositive, directoryPositive, range⟩

/-- Settings that pass the checks say how to count and what the limits are, and every row of a
report under them is judged exactly. -/
theorem analyze_exact (settings : Settings) (accepted : settings.validate = .ok ()) :
    ∃ mode limits, settings.mode = .ok mode ∧ limits? settings = some limits ∧
      ∀ (counts : List FileCount) (directories : List String),
        ∀ row ∈ (analyze counts directories mode limits).rows,
          row.Exact (limits.of row.subject) limits.percentage := by
  have valid := validate_eq_ok.mp accepted
  obtain ⟨mode, chosen⟩ := valid.exists_mode
  obtain ⟨limits, limited⟩ := exists_limits valid
  exact ⟨mode, limits, chosen, limited, fun _ _ _ member =>
    exact_of_mem (limits_valid valid limited) member⟩

/-- Of a limit of seven lines, 15 percent are a line and a bit: one line more warns, and two are an
error. -/
theorem analyze_exact_uneven :
    let settings : Settings := { rules := { maxFileLines := .int 7, warningThreshold := .int 15 } }
    let limits : Limits := ⟨7, 2000, 15⟩
    settings.validate = .ok () ∧ limits? settings = some limits ∧
    (fileRow limits .all ⟨"a", 8, 8⟩).severity = .warn ∧
    (fileRow limits .all ⟨"b", 9, 9⟩).severity = .error := by
  intro settings limits
  have accepted : settings.validate = .ok () := rfl
  obtain ⟨mode, found, chosen, limited, exact⟩ := analyze_exact settings accepted
  cases (rfl : settings.mode = .ok .all).symm.trans chosen
  cases (rfl : limits? settings = some limits).symm.trans limited
  have rows (c : FileCount) : (fileRow limits .all c).Exact 7 15 :=
    exact [c] [] (fileRow limits .all c) (by simp [analyze_rows, limits])
  exact ⟨accepted, rfl, (rows ⟨"a", 8, 8⟩).warn.mpr (by decide),
    (rows ⟨"b", 9, 9⟩).error.mpr (by decide)⟩

end LineBudget.Command
