import LineBudget.Analysis.Report
import Mathlib.Algebra.BigOperators.Ring.Finset
import Mathlib.Data.List.Nodup

/-! Sums of lines under keys, and when summing under one key comes to the same as under another. -/
namespace LineBudget.Analysis
open LineBudget.Count

/-- The sum of the weights of the items that have a key. -/
def sumUnder {α : Type} (key : α → String) (weight : α → Nat) (items : List α) (k : String) : Nat :=
  ((items.filter fun x => key x = k).map weight).sum

section
variable {α : Type} {key place : α → String} {weight : α → Nat} {items : List α} {x : α}
  {k : String}

theorem sumUnder_cons (x : α) (rest : List α) (k : String) :
    sumUnder key weight (x :: rest) k =
      (if key x = k then weight x else 0) + sumUnder key weight rest k := by
  by_cases here : key x = k <;> simp [sumUnder, here]

theorem sumUnder_append (front back : List α) (k : String) :
    sumUnder key weight (front ++ back) k =
      sumUnder key weight front k + sumUnder key weight back k := by
  simp [sumUnder]

theorem sumUnder_map {β : Type} (f : β → α) (items : List β) (k : String) :
    sumUnder key weight (items.map f) k =
      sumUnder (fun x => key (f x)) (fun x => weight (f x)) items k := by
  induction items with
  | nil => rfl
  | cons x rest ih => rw [List.map_cons, sumUnder_cons, sumUnder_cons, ih]

theorem sumUnder_eq_zero (free : ∀ x ∈ items, key x ≠ k) : sumUnder key weight items k = 0 := by
  rw [sumUnder, List.filter_eq_nil_iff.mpr (by simpa using free)]
  rfl

theorem le_sumUnder (member : x ∈ items) : weight x ≤ sumUnder key weight items (key x) := by
  obtain ⟨before, after, rfl⟩ := List.append_of_mem member
  rw [sumUnder_append, sumUnder_cons, if_pos rfl]
  omega

theorem sumUnder_le (within : ∀ x ∈ items, weight x ≠ 0 → key x = k → place x = k) :
    sumUnder key weight items k ≤ sumUnder place weight items k := by
  induction items with
  | nil => exact Nat.le_refl _
  | cons x rest ih =>
    have later := ih fun y member => within y (List.mem_cons_of_mem _ member)
    have first := within x (List.mem_cons_self ..)
    rw [sumUnder_cons, sumUnder_cons]
    split_ifs <;> grind

/-- It is less if the other one takes in something more. -/
theorem sumUnder_lt (within : ∀ x ∈ items, weight x ≠ 0 → key x = k → place x = k)
    (member : x ∈ items) (heavy : weight x ≠ 0) (more : place x = k) (less : key x ≠ k) :
    sumUnder key weight items k < sumUnder place weight items k := by
  obtain ⟨before, after, rfl⟩ := List.append_of_mem member
  have front : sumUnder key weight before k ≤ sumUnder place weight before k :=
    sumUnder_le fun y there => within y (List.mem_append_left (x :: after) there)
  have back : sumUnder key weight after k ≤ sumUnder place weight after k :=
    sumUnder_le fun y there =>
      within y (List.mem_append_right before (List.mem_cons_of_mem x there))
  rw [sumUnder_append, sumUnder_append, sumUnder_cons, sumUnder_cons, if_neg less, if_pos more]
  omega

theorem sum_indicator {keys : List String} (unique : keys.Nodup) (found : String) (n : Nat) :
    (keys.map fun k => if found = k then n else 0).sum = if found ∈ keys then n else 0 := by
  induction keys with
  | nil => rfl
  | cons k keys ih =>
    obtain ⟨new, rest⟩ := List.nodup_cons.mp unique
    rw [List.map_cons, List.sum_cons, ih rest]
    by_cases same : found = k
    · simp [same, new]
    · simp [same]

/-- The sums under several keys together are the sum over all items that have one of them. -/
theorem sum_sumUnder {keys : List String} (unique : keys.Nodup) (items : List α) :
    (keys.map (sumUnder key weight items)).sum =
      ((items.filter fun x => key x ∈ keys).map weight).sum := by
  induction items with
  | nil =>
    rw [show sumUnder key weight [] = fun _ => 0 from rfl, List.map_const']
    simp
  | cons x rest ih =>
    have each : sumUnder key weight (x :: rest) = fun k =>
        (if key x = k then weight x else 0) + sumUnder key weight rest k :=
      funext (sumUnder_cons x rest)
    rw [each, List.sum_map_add, ih, sum_indicator unique]
    by_cases known : key x ∈ keys <;> simp [known]

/-- Items that are summed under a wrong key show in the sums, if a wrong key is always further
down than the right one: nothing else can then make up for what the topmost of them lack. -/
theorem sumUnder_eq_iff (depth : String → Nat)
    (deeper : ∀ x ∈ items, key x ≠ place x →
      depth (place x) < depth (key x) ∨ ∀ y ∈ items, key y ≠ place x) :
    (∀ x ∈ items, sumUnder key weight items (place x) = sumUnder place weight items (place x)) ↔
      ∀ x ∈ items, weight x ≠ 0 → key x = place x := by
  constructor
  · intro same
    have further {x : α} (member : x ∈ items) (heavy : weight x ≠ 0) (wrong : key x ≠ place x) :
        depth (place x) < depth (key x) := by
      refine (deeper x member wrong).resolve_right fun free => heavy ?_
      have most : weight x ≤ sumUnder place weight items (place x) := le_sumUnder member
      rw [← same x member, sumUnder_eq_zero free] at most
      omega
    -- An item with the least right place of all wrong ones leaves a gap there.
    have level (n : Nat) : ∀ x ∈ items, depth (place x) = n → weight x ≠ 0 → key x = place x := by
      induction n using Nat.strongRecOn with
      | ind n ih =>
        intro x member here heavy
        by_contra wrong
        refine Nat.ne_of_lt (sumUnder_lt (fun y inside weighs there => ?_) member heavy rfl wrong)
          (same x member)
        by_contra other
        have off : key y ≠ place y := fun same => other (same ▸ there)
        have above := further inside weighs off
        rw [there, here] at above
        exact off (ih _ above y inside rfl weighs)
    exact fun x member => level _ x member rfl
  · intro right x _
    refine Nat.le_antisymm (sumUnder_le fun y member heavy there => ?_)
      (sumUnder_le fun y member heavy there => ?_)
    · rw [← there, right y member heavy]
    · rw [← there, right y member heavy]

end

theorem lookup_addLines (directory : String) (lines : Nat) (sums : List (String × Nat))
    (place : String) : ((addLines directory lines sums).lookup place).getD 0 =
      (if directory = place then lines else 0) + (sums.lookup place).getD 0 := by
  induction sums with
  | nil =>
    by_cases here : directory = place
    · simp [addLines, here]
    · simp [addLines, List.lookup_cons, beq_false_of_ne (Ne.symm here), here]
  | cons first rest ih =>
    obtain ⟨other, sum⟩ := first
    rw [addLines]
    split_ifs with same here here
    · subst same here
      simp [Nat.add_comm]
    · subst same
      simp [List.lookup_cons, beq_false_of_ne (Ne.symm here)]
    · subst here
      rw [List.lookup_cons, List.lookup_cons, beq_false_of_ne (Ne.symm same), ih, if_pos rfl]
    · rw [List.lookup_cons, List.lookup_cons]
      split
      · simp
      · rw [ih, if_neg here]

theorem lookup_directoryLines (counts : List FileCount) (mode : Mode) (place : String) :
    ((directoryLines counts mode).lookup place).getD 0 =
      sumUnder (fun c => directoryOf c.path) (·.lines mode) counts place := by
  have onward (sums : List (String × Nat)) :
      ((counts.foldl (fun sums c => addLines (directoryOf c.path) (c.lines mode) sums)
        sums).lookup place).getD 0 = (sums.lookup place).getD 0 +
          sumUnder (fun c => directoryOf c.path) (·.lines mode) counts place := by
    induction counts generalizing sums with
    | nil => simp [sumUnder]
    | cons c rest ih =>
      rw [List.foldl_cons, ih, lookup_addLines, sumUnder_cons]
      omega
  simpa [directoryLines] using onward []

theorem ofRows_rows (rows : List Row) : (Report.ofRows rows).rows = rows := by
  have onward (r : Report) : (rows.foldl Report.record r).rows = r.rows ++ rows := by
    induction rows generalizing r with
    | nil => simp
    | cons row rest ih =>
      have recorded : (r.record row).rows = r.rows ++ [row] := by
        unfold Report.record
        split <;> rfl
      rw [List.foldl_cons, ih, recorded, List.append_assoc, List.singleton_append]
  simpa [Report.ofRows] using onward {}

end LineBudget.Analysis
