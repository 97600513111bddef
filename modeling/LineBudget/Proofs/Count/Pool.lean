import LineBudget.Count.Batch
import Mathlib.Data.List.Basic

/-! The threads that run the units of a batch, as a transition system over every interleaving. A
failure is the result of a unit like any other: it neither stops nor drops the units around it. -/
namespace LineBudget.Count
open scoped List

/-- A path with its place in the batch. -/
abbrev Work := String × Nat

/-- What a unit comes to, with its place in the batch. -/
abbrev Ended := Except Failure FileCount × Nat

/-- Units that wait for a thread, run on one, and have ended, in the order of their ends. -/
structure Pool where
  waiting : List Work
  running : List Work
  ended : List Ended

namespace Pool
variable {count : String → Except Failure FileCount} {width n : Nat} {p q : Pool}

def submitted (paths : List String) : Pool := ⟨paths.zipIdx, [], []⟩

/-- Runs a unit to its end. -/
def perform (count : String → Except Failure FileCount) (unit : Work) : Ended :=
  (count unit.1, unit.2)

/-- A free thread takes the unit that has waited longest, and any running unit may end next. -/
inductive Step (count : String → Except Failure FileCount) (width : Nat) : Pool → Pool → Prop where
  | start (unit : Work) (queue active : List Work) (done : List Ended) :
      active.length < width → Step count width ⟨unit :: queue, active, done⟩
        ⟨queue, active ++ [unit], done⟩
  | finish (queue before : List Work) (unit : Work) (after : List Work) (done : List Ended) :
      Step count width ⟨queue, before ++ unit :: after, done⟩
        ⟨queue, before ++ after, done ++ [perform count unit]⟩

/-- So many steps one after the other. -/
inductive Run (count : String → Except Failure FileCount) (width : Nat) (p : Pool) :
    Nat → Pool → Prop where
  | refl : Run count width p 0 p
  | next {n : Nat} {q r : Pool} :
      Run count width p n q → Step count width q r → Run count width p (n + 1) r

/-- How many threads a batch of `units` gets: as many as asked for, else one each, and never
none. -/
def threads (workers : Option Int) (units : Nat) : Nat := (max 1 (workers.getD units)).toNat

/-- Steps that are left until every unit has ended. -/
def left (p : Pool) : Nat := 2 * p.waiting.length + p.running.length

/-- What all units come to, those that have not ended included. -/
def outcomes (count : String → Except Failure FileCount) (p : Pool) : List Ended :=
  (p.waiting ++ p.running).map (perform count) ++ p.ended

theorem threads_pos (workers : Option Int) (units : Nat) : 0 < threads workers units := by
  simp only [threads]
  omega

theorem places_perform (count : String → Except Failure FileCount) (paths : List String) :
    (paths.zipIdx.map (perform count)).map (·.2) = List.range paths.length := by
  rw [List.map_map, List.range_eq_range']
  exact List.zipIdx_map_snd 0 paths

theorem Step.left_succ (step : Step count width p q) : q.left + 1 = p.left := by
  cases step with
  | start unit queue active done free =>
    simp only [left, List.length_append, List.length_cons, List.length_nil]
    omega
  | finish queue before unit after done =>
    simp only [left, List.length_append, List.length_cons]
    omega

/-- No step loses a unit, repeats one or gives it another result. -/
theorem Step.outcomes_perm (step : Step count width p q) :
    q.outcomes count ~ p.outcomes count := by
  cases step with
  | start unit queue active done free =>
    refine List.Perm.append_right done (List.Perm.map _ ?_)
    rw [← List.append_assoc]
    exact List.perm_append_singleton unit (queue ++ active)
  | finish queue before unit after done =>
    have moved : queue ++ before ++ unit :: after ~ unit :: (queue ++ before ++ after) :=
      List.perm_middle
    calc (queue ++ (before ++ after)).map (perform count) ++ (done ++ [perform count unit])
        = ((queue ++ before ++ after).map (perform count) ++ done) ++ [perform count unit] := by
          simp only [List.append_assoc]
      _ ~ (unit :: (queue ++ before ++ after)).map (perform count) ++ done :=
          List.perm_append_singleton _ _
      _ ~ (queue ++ (before ++ unit :: after)).map (perform count) ++ done := by
          simpa only [List.append_assoc] using (moved.symm.map (perform count)).append_right done

theorem exists_step (free : 0 < width) (remains : p.left ≠ 0) : ∃ q, Step count width p q := by
  obtain ⟨queue, active, done⟩ := p
  cases active with
  | cons unit after => exact ⟨_, .finish queue [] unit after done⟩
  | nil =>
    cases queue with
    | nil => exact absurd rfl remains
    | cons unit queue => exact ⟨_, .start unit queue [] done free⟩

theorem Run.left_add (run : Run count width p n q) : q.left + n = p.left := by
  induction run with
  | refl => rfl
  | next _ step ih =>
    have := step.left_succ
    omega

theorem Run.outcomes_perm (run : Run count width p n q) :
    q.outcomes count ~ p.outcomes count := by
  induction run with
  | refl => exact .refl _
  | next _ step ih => exact step.outcomes_perm.trans ih

/-- A run comes to a stop, after two steps a unit, and only when every unit has ended once with its
own result. -/
theorem ended_perm {paths : List String} (free : 0 < width)
    (run : Run count width (submitted paths) n p) :
    n ≤ 2 * paths.length ∧ (n < 2 * paths.length → ∃ next, Step count width p next) ∧
    (n = 2 * paths.length → p.ended ~ paths.zipIdx.map (perform count)) := by
  have steps : p.left + n = 2 * paths.length := by
    simpa [submitted, left] using run.left_add
  refine ⟨by omega, fun short => exists_step free (by omega), fun full => ?_⟩
  have idle : p.waiting = [] ∧ p.running = [] := by
    simp only [left] at steps
    constructor <;> apply List.eq_nil_of_length_eq_zero <;> omega
  simpa [outcomes, submitted, idle] using run.outcomes_perm

end Pool
end LineBudget.Count
