import LineBudget.Proofs.Count.Pool
import Mathlib

/-! What a batch returns, whatever the order in which its units end. While units are taken in, each
slot holds the result of its own unit from the moment that unit is seen, and the failures stand in
the order in which they are seen. -/
namespace LineBudget.Count
open LineBudget.Files
open scoped List

/-- The failure of the unit at an index, with its path. -/
def failureAt (units : List (String × Except Failure FileCount)) (i : Nat) :
    Option (String × Failure) :=
  match units[i]? with
  | some (path, .error failure) => some (path, failure)
  | _ => none

/-- What has been collected once the units of `seen` were taken in, in this order. -/
structure Taken (units : List (String × Except Failure FileCount)) (seen : List Nat)
    (c : Collected) : Prop where
  slots : ∀ i, c.slots[i]? = units[i]?.map fun unit => if i ∈ seen then unit.2.toOption else none
  failures : c.failures = seen.filterMap (failureAt units)

section Collected
variable {units : List (String × Except Failure FileCount)} {seen order : List Nat} {c : Collected}

theorem add_failures (units : List (String × Except Failure FileCount)) (c : Collected) (i : Nat) :
    (c.add units i).failures = c.failures ++ (failureAt units i).toList := by
  unfold Collected.add failureAt
  split <;> simp_all

theorem add_slots (units : List (String × Except Failure FileCount)) (c : Collected) (i : Nat) :
    (c.add units i).slots = match units[i]? with
      | some (_, .ok count) => c.slots.set i (some count)
      | _ => c.slots := by
  unfold Collected.add
  split <;> simp_all

theorem Taken.none (units : List (String × Except Failure FileCount)) :
    Taken units [] ⟨List.replicate units.length none, []⟩ where
  slots i := by
    by_cases within : i < units.length
    · simp [within]
    · simp [within]
  failures := rfl

theorem Taken.add (taken : Taken units seen c) (i : Nat) :
    Taken units (seen ++ [i]) (c.add units i) where
  failures := by
    rw [add_failures, taken.failures, List.filterMap_append]
    cases failed : failureAt units i <;> simp [failed]
  slots j := by
    have before := taken.slots j
    rw [add_slots]
    by_cases here : i = j
    · subst here
      cases found : units[i]? with
      | none => simpa [found] using before
      | some unit =>
        obtain ⟨path, result⟩ := unit
        rw [found] at before
        have within : i < c.slots.length := (List.getElem?_eq_some_iff.mp before).1
        cases result with
        | ok count => simp [within, Except.toOption]
        | error failure => simpa [Except.toOption] using before
    · have same : (j ∈ seen ++ [i]) ↔ j ∈ seen := by simp [Ne.symm here]
      simp only [same, ← before]
      split
      · exact List.getElem?_set_ne here
      · rfl

/-- However far the stream of ended units has been read, this is what has been collected. -/
theorem collect_taken (units : List (String × Except Failure FileCount)) (order : List Nat) :
    Taken units order (collect units order) := by
  induction order using List.reverseRecOn with
  | nil => exact .none units
  | append_singleton seen i ih =>
    simpa only [collect, List.foldl_append, List.foldl_cons, List.foldl_nil] using ih.add i

theorem collect_slots (once : order ~ List.range units.length) :
    (collect units order).slots = units.map fun unit => unit.2.toOption := by
  apply List.ext_getElem?
  intro i
  rw [(collect_taken units order).slots, List.getElem?_map]
  by_cases within : i < units.length
  · have seen : i ∈ order := once.mem_iff.mpr (List.mem_range.mpr within)
    simp [seen]
  · simp [within]

end Collected

section Batch
variable {count : String → Except Failure FileCount} {paths : List String} {name : String}
  {workers : Option Int} {order : List Nat}

/-- The units of a batch, each run to its end. -/
def unitsOf (count : String → Except Failure FileCount) (paths : List String) :
    List (String × Except Failure FileCount) :=
  paths.map fun path => (path, count path)

theorem failureAt_eq_some {i : Nat} {path : String} {failure : Failure} :
    failureAt (unitsOf count paths) i = some (path, failure) ↔
      paths[i]? = some path ∧ count path = .error failure := by
  unfold failureAt unitsOf
  rw [List.getElem?_map]
  cases found : paths[i]? with
  | none => simp
  | some other => cases result : count other <;> simp [result] <;> grind

theorem failureAt_eq_none {i : Nat} : failureAt (unitsOf count paths) i = none ↔
    ∀ path ∈ paths[i]?, ∃ c, count path = .ok c := by
  unfold failureAt unitsOf
  rw [List.getElem?_map]
  cases found : paths[i]? with
  | none => simp
  | some other => cases result : count other <;> simp [result]

/-- The first failure on the stream decides; without one, the results do. -/
theorem countAll_outcome (once : order ~ List.range paths.length) :
    (countAll count paths name workers order).outcome =
      match order.findSome? (failureAt (unitsOf count paths)) with
      | some (_, failure) => .error failure
      | none => .ok ((unitsOf count paths).filterMap fun unit => unit.2.toOption) := by
  cases paths with
  -- An empty batch is answered before anything is collected.
  | nil =>
    obtain rfl : order = [] := by simpa using once
    rfl
  | cons path rest =>
    have slots : (collect (unitsOf count (path :: rest)) order).slots = _ :=
      collect_slots (by simpa [unitsOf] using once)
    have failures := (collect_taken (unitsOf count (path :: rest)) order).failures
    have first := congrArg List.head? failures
    rw [List.head?_filterMap] at first
    simp only [countAll, List.isEmpty_cons, Bool.false_eq_true, if_false]
    rw [show (path :: rest).map (fun path => (path, count path)) = unitsOf count (path :: rest)
      from rfl, first, slots, List.filterMap_map]
    cases order.findSome? (failureAt (unitsOf count (path :: rest))) <;> rfl

/-- Nothing but the counts of its own paths goes into a batch. -/
theorem countAll_congr {count' : String → Except Failure FileCount} (name : String)
    (workers : Option Int) (order : List Nat) (same : ∀ path ∈ paths, count path = count' path) :
    countAll count paths name workers order = countAll count' paths name workers order := by
  have units : (paths.map fun path => (path, count path)) =
      paths.map fun path => (path, count' path) :=
    List.map_congr_left fun path member => by rw [same path member]
  rw [countAll, countAll, units]

/-- Where every unit succeeds, dropping empty slots drops nothing. -/
theorem results_of_ok (succeed : ∀ path ∈ paths, ∃ c, count path = .ok c) :
    ((unitsOf count paths).filterMap fun unit => unit.2.toOption).map .ok = paths.map count := by
  induction paths with
  | nil => rfl
  | cons path rest ih =>
    obtain ⟨c, counted⟩ := succeed path (by simp)
    have kept : (Except.ok c : Except Failure FileCount).toOption = some c := rfl
    have later := ih fun other member => succeed other (by simp [member])
    simp only [unitsOf, List.map_cons, counted, List.filterMap_cons, kept]
    exact congrArg (Except.ok c :: ·) later

/-- A batch without failures has all results, each in its place. -/
theorem countAll_ok (name : String) (workers : Option Int) (once : order ~ List.range paths.length)
    (succeed : ∀ path ∈ paths, ∃ c, count path = .ok c) :
    ∃ counts, (countAll count paths name workers order).outcome = .ok counts ∧
      counts.map .ok = paths.map count := by
  have outcome : (countAll count paths name workers order).outcome = _ := countAll_outcome once
  have quiet : order.findSome? (failureAt (unitsOf count paths)) = none := by
    rw [List.findSome?_eq_none_iff]
    intro i _
    exact failureAt_eq_none.mpr fun path here => succeed path (List.mem_of_getElem? here)
  rw [quiet] at outcome
  exact ⟨_, outcome, results_of_ok succeed⟩

/-- One file that cannot be counted is enough for a batch to fail. -/
theorem countAll_error (count : String → Except Failure FileCount) {path : String}
    {failure : Failure} (name : String) (workers : Option Int)
    (once : order ~ List.range paths.length) (member : path ∈ paths)
    (failed : count path = .error failure) :
    ∃ first, (countAll count paths name workers order).outcome = .error first := by
  have outcome : (countAll count paths name workers order).outcome = _ := countAll_outcome once
  obtain ⟨i, within, here⟩ := List.getElem_of_mem member
  have seen : i ∈ order := once.mem_iff.mpr (List.mem_range.mpr within)
  have recorded : failureAt (unitsOf count paths) i = some (path, failure) :=
    failureAt_eq_some.mpr ⟨by rw [List.getElem?_eq_getElem within, here], failed⟩
  cases found : order.findSome? (failureAt (unitsOf count paths)) with
  | none => cases recorded.symm.trans (List.findSome?_eq_none_iff.mp found i seen)
  | some first =>
    rw [found] at outcome
    exact ⟨_, outcome⟩

/-- The display advances once for each unit, also in a batch that fails. -/
theorem countAll_advances (once : order ~ List.range paths.length) :
    (countAll count paths name workers order).calls.count .advance = paths.length := by
  have length : order.length = paths.length := by simpa using once.length_eq
  cases paths with
  | nil => rfl
  | cons path rest =>
    simp only [countAll, List.isEmpty_cons, Bool.false_eq_true, if_false]
    split <;> simp [List.count_append, List.map_const', length]

/-- Any order of completion gives the same results, each in its place. A failing batch raises the
failure that is seen first and returns nothing, and it still has every unit run to its end on
whatever threads it was given. -/
theorem countAll_any_order (d : Disk) (paths : List String) (mode : Mode) (workers : Option Int)
    (order : List Nat) (once : order ~ List.range paths.length) :
    let count := fun path => countFile d path mode lineLimit
    let batch := countAll count paths mode.name workers order
    ((∀ path ∈ paths, ∃ c, count path = .ok c) →
      ∃ counts, batch.outcome = .ok counts ∧ counts.map .ok = paths.map count) ∧
    ((∃ path ∈ paths, ∃ failure, count path = .error failure) →
      (∃ before i after path failure, order = before ++ i :: after ∧ paths[i]? = some path ∧
        count path = .error failure ∧ batch.outcome = .error failure ∧
        ∀ j ∈ before, ∀ earlier ∈ paths[j]?, ∃ c, count earlier = .ok c) ∧
      batch.calls.count .advance = paths.length) ∧
    ∀ steps pool, Pool.Run count (Pool.threads workers paths.length) (.submitted paths) steps pool →
      steps ≤ 2 * paths.length ∧
      (steps < 2 * paths.length →
        ∃ next, Pool.Step count (Pool.threads workers paths.length) pool next) ∧
      (steps = 2 * paths.length → pool.ended ~ paths.zipIdx.map (Pool.perform count) ∧
        order ~ pool.ended.map (·.2)) := by
  intro count batch
  have outcome : batch.outcome = _ := countAll_outcome once
  refine ⟨countAll_ok mode.name workers once,
    fun ⟨path, member, failure, failed⟩ => ⟨?_, countAll_advances once⟩, fun steps pool run => ?_⟩
  · cases found : order.findSome? (failureAt (unitsOf count paths)) with
    | none =>
      obtain ⟨i, within, rfl⟩ := List.getElem_of_mem member
      have seen : i ∈ order := once.mem_iff.mpr (List.mem_range.mpr within)
      have fine := failureAt_eq_none.mp (List.findSome?_eq_none_iff.mp found i seen)
      obtain ⟨c, counted⟩ := fine paths[i] (List.getElem?_eq_getElem within)
      exact absurd (counted.symm.trans failed) (by simp)
    | some first =>
      obtain ⟨path, failure⟩ := first
      obtain ⟨before, i, after, split, here, earlier⟩ := List.findSome?_eq_some_iff.mp found
      obtain ⟨there, raised⟩ := failureAt_eq_some.mp here
      rw [found] at outcome
      exact ⟨before, i, after, path, failure, split, there, raised, outcome,
        fun j within => failureAt_eq_none.mp (earlier j within)⟩
  · obtain ⟨most, goesOn, finished⟩ := Pool.ended_perm (Pool.threads_pos ..) run
    refine ⟨most, goesOn, fun full => ⟨finished full, ?_⟩⟩
    have places := ((finished full).map (·.2)).symm
    rw [Pool.places_perform] at places
    exact once.trans places

/-- A disk with one file of one line. -/
def oneFile : Disk := { root := .directory [("a", .file [0x78, 0x0A] true)] {} }

/-- The units end last to first on a single thread, and the one in the middle fails. -/
theorem countAll_any_order_missing :
    [2, 1, 0] ~ List.range 3 ∧
    (countAll (fun path => countFile oneFile path .all lineLimit) ["a", "b", "a"] "all" (some 0)
      [2, 1, 0]).outcome = .error (.unreadable "b" ⟨.notFound, "b"⟩) ∧
    (countAll (fun path => countFile oneFile path .all lineLimit) ["a", "a"] "all" (some 0)
      [1, 0]).outcome = .ok [⟨"a", 1, 1⟩, ⟨"a", 1, 1⟩] := by
  have counted : countFile oneFile "a" .all lineLimit = .ok ⟨"a", 1, 1⟩ := by cbv
  have missing : countFile oneFile "b" .all lineLimit =
      .error (.unreadable "b" ⟨.notFound, "b"⟩) := by cbv
  refine ⟨by decide, ?_, ?_⟩
  · obtain ⟨⟨_, i, _, path, failure, _, here, failed, outcome, _⟩, _⟩ :=
      (countAll_any_order oneFile ["a", "b", "a"] .all (some 0) [2, 1, 0] (by decide)).2.1
        ⟨"b", by decide, _, missing⟩
    have member := List.mem_of_getElem? here
    simp only [List.mem_cons, List.not_mem_nil, or_false] at member
    rcases member with rfl | rfl | rfl
    · simp [counted] at failed
    · cases missing.symm.trans failed
      exact outcome
    · simp [counted] at failed
  · obtain ⟨counts, outcome, results⟩ :=
      (countAll_any_order oneFile ["a", "a"] .all (some 0) [1, 0] (by decide)).1
        (by simp [counted])
    have same : counts = [⟨"a", 1, 1⟩, ⟨"a", 1, 1⟩] :=
      List.map_injective_iff.mpr (fun _ _ => Except.ok.inj) (results.trans (by simp [counted]))
    subst same
    exact outcome

end Batch
end LineBudget.Count
