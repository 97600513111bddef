import LineBudget.Proofs.Analysis.Tally
import LineBudget.Proofs.Number.Digits
import LineBudget.Report.Format

/-! Reports compared: fewer lines under the same limits lead to no worse verdict, on each row and on
the report as a whole. -/
namespace LineBudget.Analysis
open LineBudget.Count LineBudget.Scan
open scoped List

/-- A warning is worse than to pass, and an error worse than a warning. -/
def Severity.rank : Severity → Nat
  | .pass => 0
  | .warn => 1
  | .error => 2

/-- A row on the same subject under the same limit, with no more lines and no worse verdict. -/
structure Row.NoWorse (row other : Row) : Prop where
  path : row.path = other.path
  subject : row.subject = other.subject
  limit : row.limit = other.limit
  threshold : row.threshold = other.threshold
  lines : row.lines ≤ other.lines
  severity : row.severity.rank ≤ other.severity.rank

/-- Each row of a report stands no worse than one of another report, which has as many. -/
structure Report.Relaxes (r other : Report) : Prop where
  rows : ∀ row ∈ r.rows, ∃ counterpart ∈ other.rows, row.NoWorse counterpart
  length : r.rows.length ≤ other.rows.length

/-- Nothing is worse than an error. -/
theorem Severity.eq_error_of_rank {severity : Severity}
    (worst : Severity.error.rank ≤ severity.rank) : severity = .error := by
  cases severity with
  | error => rfl
  | pass | warn => exact absurd worst (by decide)

theorem Row.NoWorse.refl (row : Row) : row.NoWorse row :=
  ⟨rfl, rfl, rfl, rfl, Int.le_refl _, Nat.le_refl _⟩

section Rows
variable {lines more limit limit' threshold threshold' : Int} {c other : FileCount} {mode mode' : Count.Mode}
  {sums sums' : List (String × Nat)}

/-- Fewer lines under bounds that are no lower are judged no worse. -/
theorem judge_rank (less : lines ≤ more) (limited : limit ≤ limit') (bounded : threshold ≤ threshold') :
    (judge lines limit' threshold').rank ≤ (judge more limit threshold).rank := by
  by_cases within : more ≤ limit
  · rw [judge, judge, if_pos within, if_pos (less.trans (within.trans limited))]
  · by_cases warned : more ≤ threshold
    · rw [judge, judge, if_neg within, if_pos warned, if_pos (less.trans (warned.trans bounded))]
      split <;> decide
    · have worst : judge more limit threshold = .error := by
        rw [judge, if_neg within, if_neg warned]
      rw [worst]
      cases judge lines limit' threshold' <;> decide

theorem directoryRow_noWorse (limits : Limits) {place : String}
    (less : (sums.lookup place).getD 0 ≤ (sums'.lookup place).getD 0) :
    (directoryRow limits sums place).NoWorse (directoryRow limits sums' place) where
  path := rfl
  subject := rfl
  limit := rfl
  threshold := rfl
  lines := Int.ofNat_le.mpr less
  severity := judge_rank (Int.ofNat_le.mpr less) (Int.le_refl _) (Int.le_refl _)

/-- The text of a row tells its directory. -/
theorem shown_injective : Function.Injective shown := by
  have root : shown "." = "." ++ "/" := by decide
  have slash (place : String) : shown place = place ++ "/" := by
    by_cases here : place = "."
    · rw [here, root]
    · rw [shown, if_neg here]
  intro a b same
  rw [slash, slash] at same
  exact (String.append_left_inj "/").mp same

theorem lines_nonneg {counts : List FileCount} {directories : List String} {limits : Limits}
    {row : Row} (member : row ∈ (analyze counts directories mode limits).rows) : 0 ≤ row.lines := by
  rw [analyze_rows, List.mem_append, List.mem_map, List.mem_map] at member
  rcases member with ⟨c, _, rfl⟩ | ⟨place, _, rfl⟩
  · exact Int.natCast_nonneg _
  · exact Int.natCast_nonneg _

end Rows

section Analyze
variable {counts counts' : List FileCount} {files files' : List Entry} {mode mode' : Count.Mode}

/-- Fewer files have no more lines under any directory. -/
theorem pathLines_sublist (fewer : counts.zip files <+ counts'.zip files') (place : String) :
    pathLines counts files mode place ≤ pathLines counts' files' mode place :=
  ((fewer.filter _).map _).sum_le_sum fun _ _ => Nat.zero_le _

theorem located_sublist (fewer : counts.zip files <+ counts'.zip files') :
    located counts files <+ located counts' files' := fewer.map _

/-- With fewer files, each directory that is left has a row that is no worse. -/
theorem directories_noWorse (fewer : counts.zip files <+ counts'.zip files') (limits : Limits)
    (place : String) : (directoryRow limits (directoryLines (located counts files) mode) place).NoWorse
      (directoryRow limits (directoryLines (located counts' files') mode) place) := by
  apply directoryRow_noWorse
  rw [lookup_located, lookup_located]
  exact pathLines_sublist fewer place

end Analyze

namespace Report.Relaxes
variable {r other : Report}

/-- Where no row is an error, none of those that are no worse is. -/
theorem errors (relaxes : r.Relaxes other) (tallied : Tallied r) (tallied' : Tallied other)
    (failed : 0 < r.errors) : 0 < other.errors := by
  obtain ⟨row, member, wrong⟩ := tallied.errors_pos.mp failed
  obtain ⟨counterpart, present, noWorse⟩ := relaxes.rows row member
  refine tallied'.errors_pos.mpr ⟨counterpart, present, ?_⟩
  apply Severity.eq_error_of_rank
  rw [← wrong]
  exact noWorse.severity

end Report.Relaxes

end LineBudget.Analysis

namespace LineBudget.Report
open LineBudget.Analysis

theorem isWritable_json_iff {r : Analysis.Report} : isWritable .json r = true ↔
    (∀ row ∈ r.rows, Number.isWritable row.lines = true ∧ Number.isWritable row.limit = true ∧
      Number.isWritable row.threshold = true) ∧
    Number.isWritable r.errors = true ∧ Number.isWritable r.warnings = true ∧
      Number.isWritable r.passed = true ∧ Number.isWritable r.total = true := by
  simp [isWritable, integers, List.all_append, List.all_flatMap]

/-- A report that is no worse than one that can be written can be written as well. -/
theorem isWritable_of_relaxes {format : Format} {r other : Analysis.Report}
    (relaxes : r.Relaxes other) (natural : ∀ row ∈ r.rows, 0 ≤ row.lines) (tallied : Tallied r)
    (tallied' : Tallied other) (writable : isWritable format other = true) :
    isWritable format r = true := by
  cases format with
  | text => rfl
  | json =>
    obtain ⟨rows, _, _, _, total⟩ := isWritable_json_iff.mp writable
    -- Each total counts rows of the report, and the other report shows how many rows it has.
    have tally {n : Nat} (within : n ≤ r.rows.length) : Number.isWritable n = true := by
      refine Number.isWritable_of_le (Int.natCast_nonneg n) (Int.ofNat_le.mpr ?_) total
      rw [tallied'.total]
      exact within.trans relaxes.length
    apply isWritable_json_iff.mpr
    refine ⟨?_, ?_, ?_, ?_, ?_⟩
    · intro row member
      obtain ⟨counterpart, present, noWorse⟩ := relaxes.rows row member
      obtain ⟨lines, limit, threshold⟩ := rows counterpart present
      exact ⟨Number.isWritable_of_le (natural row member) noWorse.lines lines,
        noWorse.limit ▸ limit, noWorse.threshold ▸ threshold⟩
    · exact tally (tallied.errors ▸ List.countP_le_length)
    · exact tally (tallied.warnings ▸ List.countP_le_length)
    · exact tally (tallied.passed ▸ List.countP_le_length)
    · exact tally tallied.total.le

end LineBudget.Report
