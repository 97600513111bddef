import LineBudget.Progress.Task
import Mathlib.Data.List.Basic
import Mathlib.Data.Option.Basic

/-! The tasks of one bar under any run of requests. A request that fails changes nothing, an update
changes one task and only what it gives, and so a task is at any time what it began as, changed by the
updates with its number one after the other. The amounts may be numbers of any kind: no law of theirs
is used. -/
namespace LineBudget.Progress

/-- A request on the tasks of a bar. -/
inductive Request (N : Type) where
  | create (description : String) (total : Option N)
  | update (number : Int) (change : UpdateOf N)

inductive Reply where
  | created (number : Nat)
  | updated
  | failed (error : UpdateError)
  deriving DecidableEq

section Requests
variable {N : Type}

/-- A stage and a description come together or not at all. An empty description is none. -/
def UpdateOf.Paired (change : UpdateOf N) : Prop :=
  change.stage.isSome = (given change.description).isSome

instance (change : UpdateOf N) : Decidable change.Paired :=
  inferInstanceAs (Decidable (change.stage.isSome = _))

/-- The description that the update gives, marked with its stage. -/
def UpdateOf.text (change : UpdateOf N) : Option String :=
  change.stage.bind fun stage => (given change.description).map stage.mark

/-- How many tasks the requests create. -/
def creations (requests : List (Request N)) : Nat :=
  requests.countP fun
    | .create .. => true
    | .update .. => false

/-- The updates with a number among the requests, without those that fail. -/
def changesOf (number : Nat) (requests : List (Request N)) : List (UpdateOf N) :=
  requests.filterMap fun
    | .create .. => none
    | .update other change => if other = number ∧ change.Paired then some change else none

theorem creations_append (requests more : List (Request N)) :
    creations (requests ++ more) = creations requests + creations more := List.countP_append

theorem changesOf_append (number : Nat) (requests more : List (Request N)) :
    changesOf number (requests ++ more) = changesOf number requests ++ changesOf number more :=
  List.filterMap_append

theorem numbered_natCast (tasks : List (TaskOf N)) (number : Nat) :
    numbered tasks number = tasks[number]? := by
  rw [numbered, if_pos (Int.natCast_nonneg number), Int.toNat_natCast]

theorem numbered_eq_none_iff {tasks : List (TaskOf N)} {number : Int} :
    numbered tasks number = none ↔ number < 0 ∨ tasks.length ≤ number := by
  unfold numbered
  split
  · rw [List.getElem?_eq_none_iff]
    omega
  · simp only [true_iff]
    omega

theorem numbered_eq_some {tasks : List (TaskOf N)} {number : Int} {task : TaskOf N}
    (found : numbered tasks number = some task) : ∃ n : Nat, number = n ∧ tasks[n]? = some task := by
  unfold numbered at found
  split at found
  case isTrue natural => exact ⟨number.toNat, (Int.toNat_of_nonneg natural).symm, found⟩
  case isFalse => cases found

/-- The update gives a total other than the one there is. -/
def UpdateOf.Renews [BEq N] (change : UpdateOf N) (task : TaskOf N) : Prop :=
  ∃ total, change.total = some total ∧ (task.total == some total) = false

theorem renews_iff [BEq N] {change : UpdateOf N} {task : TaskOf N} :
    change.Renews task ↔ (change.total.any fun total => task.total != some total) = true := by
  simp only [UpdateOf.Renews, Option.any_eq_true, bne, Bool.not_eq_true']

end Requests

section Run
variable {N : Type} [Add N] [LE N] [DecidableLE N] [BEq N]

/-- What an update makes of a task. What is not given is kept. -/
structure UpdateOf.Changes (change : UpdateOf N) (before after : TaskOf N) : Prop where
  completed : ∀ amount, change.completed = some amount → after.completed = amount
  advanced : ∀ amount, change.completed = none → change.advance = some amount →
    after.completed = before.completed + amount
  stayed : change.completed = none → change.advance = none → after.completed = before.completed
  renewed : change.Renews before → after.total = change.total
  total : ¬ change.Renews before → after.total = before.total
  described : ∀ stage description, change.stage = some stage →
    given change.description = some description → after.description = stage.mark description
  undescribed : change.stage = none ∨ given change.description = none →
    after.description = before.description
  finished : after.finished = true ↔ before.finished = true ∧ ¬ change.Renews before ∨
    ∃ total, after.total = some total ∧ total ≤ after.completed

/-- Carries out a request. The tasks stay as they are where it fails. -/
def Request.perform [OfNat N 0] (tasks : List (TaskOf N)) : Request N → Reply × List (TaskOf N)
  | .create description total =>
    let (number, next) := Progress.create tasks description total
    (.created number, next)
  | .update number change => match Progress.update tasks number change with
    | .ok next => (.updated, next)
    | .error e => (.failed e, tasks)

/-- The tasks behind a run of requests. -/
def performAll [OfNat N 0] (tasks : List (TaskOf N)) (requests : List (Request N)) : List (TaskOf N) :=
  requests.foldl (fun tasks request => (request.perform tasks).2) tasks

/-- The task with the change, its description marked. -/
def TaskOf.changed (task : TaskOf N) (change : UpdateOf N) : TaskOf N := task.apply change change.text

/-- What a request does to tasks, so many of which were created, and what it answers. -/
inductive Effect [OfNat N 0] (created : Nat) (tasks : List (TaskOf N)) :
    Request N → Reply × List (TaskOf N) → Prop
  | create {description : String} {total : Option N} :
      Effect created tasks (.create description total)
        (.created created, tasks ++ [{ description := Stage.inProgress.mark description, total }])
  | unpaired {number : Int} {change : UpdateOf N} (alone : ¬ change.Paired) :
      Effect created tasks (.update number change) (.failed .unpaired, tasks)
  | unknown {number : Int} {change : UpdateOf N} (paired : change.Paired)
      (beyond : number < 0 ∨ created ≤ number) :
      Effect created tasks (.update number change) (.failed .unknownTask, tasks)
  | update {number : Nat} {change : UpdateOf N} {next : List (TaskOf N)} {before after : TaskOf N}
      (paired : change.Paired) (count : next.length = tasks.length)
      (others : ∀ other, other ≠ number → next[other]? = tasks[other]?)
      (old : tasks[number]? = some before) (new : next[number]? = some after)
      (changes : change.Changes before after) :
      Effect created tasks (.update number change) (.updated, next)

variable {tasks : List (TaskOf N)} {task : TaskOf N} {number : Int} {change : UpdateOf N}

theorem update_unpaired (tasks : List (TaskOf N)) (number : Int) (alone : ¬ change.Paired) :
    update tasks number change = .error .unpaired := by
  unfold UpdateOf.Paired at alone
  unfold update
  revert alone
  cases change.stage <;> cases given change.description <;> simp

theorem update_paired (tasks : List (TaskOf N)) (number : Int) (paired : change.Paired) :
    update tasks number change = match numbered tasks number with
      | some task => .ok (tasks.set number.toNat (task.changed change))
      | none => .error .unknownTask := by
  unfold UpdateOf.Paired at paired
  unfold update TaskOf.changed UpdateOf.text
  revert paired
  cases change.stage <;> cases given change.description <;> cases numbered tasks number <;> simp

theorem changes_apply (task : TaskOf N) (change : UpdateOf N) :
    change.Changes task (task.changed change) where
  completed amount given := by simp only [TaskOf.changed, TaskOf.apply, given, Option.getD_some]
  advanced amount absent given := by
    simp only [TaskOf.changed, TaskOf.apply, absent, given, Option.getD_none, Option.map_some,
      Option.getD_some]
  stayed absent absent' := by
    simp only [TaskOf.changed, TaskOf.apply, absent, absent', Option.getD_none, Option.map_none]
  renewed renews := by simp only [TaskOf.changed, TaskOf.apply, renews_iff.mp renews, if_true]
  total keeps := by simp only [TaskOf.changed, TaskOf.apply, if_neg (mt renews_iff.mpr keeps)]
  described stage description staged given := by
    simp only [TaskOf.changed, TaskOf.apply, UpdateOf.text, staged, given, Option.bind_some,
      Option.map_some, Option.getD_some]
  undescribed missing := by
    have none : change.text = none := by
      rcases missing with missing | missing <;> simp [UpdateOf.text, missing]
    simp only [TaskOf.changed, TaskOf.apply, none, Option.getD_none]
  finished := by
    rw [renews_iff, Bool.not_eq_true]
    simp only [TaskOf.changed, TaskOf.apply, Bool.or_eq_true, Bool.and_eq_true, Bool.not_eq_true',
      Option.any_eq_true, decide_eq_true_eq]

variable [OfNat N 0]

theorem effect_perform (tasks : List (TaskOf N)) (request : Request N) :
    Effect tasks.length tasks request (request.perform tasks) := by
  cases request with
  | create description total => exact .create
  | update number change =>
    by_cases paired : change.Paired
    · rw [Request.perform, update_paired tasks number paired]
      cases found : numbered tasks number with
      | none => exact .unknown paired (numbered_eq_none_iff.mp found)
      | some task =>
        obtain ⟨n, rfl, old⟩ := numbered_eq_some found
        rw [Int.toNat_natCast]
        have within : n < tasks.length := (List.getElem?_eq_some_iff.mp old).1
        refine .update paired List.length_set (fun other differs => ?_) old
          (List.getElem?_set_self within) (changes_apply task change)
        exact List.getElem?_set_ne differs.symm
    · rw [Request.perform, update_unpaired tasks number paired]
      exact .unpaired paired

omit [DecidableLE N] in
theorem Effect.length {request : Request N} {outcome : Reply × List (TaskOf N)}
    (effect : Effect tasks.length tasks request outcome) :
    outcome.2.length = tasks.length + creations [request] := by
  cases effect with
  | create => rw [List.length_append]; rfl
  | unpaired | unknown => rfl
  | update _ count => exact count

theorem length_performAll (tasks : List (TaskOf N)) (requests : List (Request N)) :
    (performAll tasks requests).length = tasks.length + creations requests := by
  induction requests generalizing tasks with
  | nil => rfl
  | cons request rest ih =>
    rw [performAll, List.foldl_cons, ← performAll, ih, (effect_perform tasks request).length,
      Nat.add_assoc, ← creations_append, List.singleton_append]

/-- A request changes a task only if it is an update with its number that does not fail. -/
theorem task_perform {n : Nat} (found : tasks[n]? = some task) (request : Request N) :
    (request.perform tasks).2[n]? = some ((changesOf n [request]).foldl TaskOf.changed task) := by
  have within : n < tasks.length := (List.getElem?_eq_some_iff.mp found).1
  cases request with
  | create description total =>
    rw [Request.perform, create, List.getElem?_append_left within, found]
    rfl
  | update number change =>
    by_cases own : number = n ∧ change.Paired
    · obtain ⟨rfl, paired⟩ := own
      rw [Request.perform, update_paired tasks n paired, numbered_natCast, found]
      simp [changesOf, paired, within]
    · have unchanged : (changesOf n [.update number change] : List (UpdateOf N)) = [] := by
        simp [changesOf, own]
      rw [unchanged, List.foldl_nil, ← found]
      generalize effect : Request.perform tasks (.update number change) = outcome
      have effect := effect ▸ effect_perform tasks (.update number change)
      cases effect with
      | unpaired | unknown => rfl
      | update paired _ others =>
        exact others n fun same => own ⟨congrArg _ same.symm, paired⟩

/-- Behind requests a task is what the updates with its number have made of it one after the other. -/
theorem task_performAll {n : Nat} (found : tasks[n]? = some task) (requests : List (Request N)) :
    (performAll tasks requests)[n]? = some ((changesOf n requests).foldl TaskOf.changed task) := by
  induction requests generalizing tasks task with
  | nil => exact found
  | cons request rest ih =>
    rw [performAll, List.foldl_cons, ← performAll, ih (task_perform found request),
      ← List.foldl_append, ← changesOf_append, List.singleton_append]

/-- Tasks are numbered from zero in the order of their creation. Behind any run of requests, a
further one adds a task with the next number, or fails and changes nothing, or changes by what it
gives the one task that it names. At any later time a task is what it was created as, changed by the
updates with its number that did not fail. -/
theorem requests_exact (history : List (Request N)) (request : Request N) :
    (performAll [] history).length = creations history ∧
    Effect (creations history) (performAll [] history) request
      (request.perform (performAll [] history)) ∧
    ∀ description total later,
      (performAll [] (history ++ .create description total :: later))[creations history]? =
        some ((changesOf (creations history) later).foldl TaskOf.changed
          { description := Stage.inProgress.mark description, total }) := by
  have count : (performAll [] history).length = creations history := by
    rw [length_performAll, List.length_nil, Nat.zero_add]
  refine ⟨count, ?_, fun description total later => ?_⟩
  · rw [← count]
    exact effect_perform (performAll [] history) request
  · have split : performAll [] (history ++ .create description total :: later) =
        performAll (Request.perform (performAll [] history) (.create description total)).2 later :=
      List.foldl_append
    rw [split]
    refine task_performAll ?_ later
    rw [← count, Request.perform, create, List.getElem?_concat_length]

/-- A stage alone and a number below zero change nothing, and an empty description is none. -/
example :
    performAll ([] : List Task) [.create "count" (some 2), .update 0 { stage := some .complete },
      .update (-1) { completed := some 1 }, .update 0 { advance := some 2, description := some "" }] =
    [{ description := "[magenta]count", total := some 2, completed := 2, finished := true }] := by
  decide

end Run
end LineBudget.Progress
