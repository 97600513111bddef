import LineBudget.Progress.Display
import LineBudget.Proofs.Progress.Tasks

/-! What a call on a progress display does after any history of calls. The display remembers the tasks
of the latest entry and the number of the start that returned last; an exit makes it forget neither,
and a later entry only the tasks. -/
namespace LineBudget.Progress

/-- The method of a call that needs a started task. -/
def Call.method? : Call → Option String
  | .update .. => some "on_update"
  | .complete .. => some "on_complete"
  | .fail _ => some "on_fail"
  | _ => none

/-- What a call makes of a task, unless the call lacks an advance or a description. -/
def Call.change? : Call → Option (Task → Task)
  | .update advance description =>
    if (advance.filter (· ≠ 0)).isNone && (given description).isNone then none
    else some fun task => task.apply { advance } ((given description).map Stage.inProgress.mark)
  | .complete description completed total =>
    (given (some description)).map fun description task =>
      task.apply { completed := some completed, total } (some (Stage.complete.mark description))
  | .fail description =>
    (given (some description)).map fun description task =>
      task.apply {} (some (Stage.error.mark description))
  | _ => none

/-- What is raised by a call that lacks something. -/
def Call.lack : Call → DisplayError
  | .update .. => .nothingToUpdate
  | _ => .update .unpaired

namespace Display
variable {painter : Painter} {d : Display} {call : Call} {method : String} {tasks : List Task}
  {number : Nat} {history : List Call}

section Step

/-- The task of a number is changed, if there is one. -/
def changed (d : Display) (tasks : List Task) (number : Nat) (change : Task → Task) : Answer :=
  match tasks[number]? with
  | some task => ⟨{ d with tasks := some (tasks.set number (change task)) }, none⟩
  | none => ⟨d, some (.update .unknownTask)⟩

theorem attempt_change (started : d.started method = .ok (tasks, number)) (change : Update) :
    d.attempt (d.change method change) =
      if change.stage.isSome = (given change.description).isSome then
        d.changed tasks number fun task => task.apply change
          (change.stage.bind fun stage => (given change.description).map stage.mark)
      else ⟨d, some (.update .unpaired)⟩ := by
  have bound : d.change method change = ((update tasks number change).mapError .update).map
      fun tasks => { d with tasks := some tasks } := by
    rw [Display.change, started]
    rfl
  by_cases paired : change.stage.isSome = (given change.description).isSome
  · rw [if_pos paired, bound, update_paired tasks number paired, numbered_natCast, changed]
    cases tasks[number]? <;> rfl
  · rw [if_neg paired, bound, update_unpaired tasks number paired]
    rfl

theorem given_given (description : Option String) : given (given description) = given description := by
  simp [given, Option.filter_filter]

/-- Every call that needs a started task meets the same three checks: is there a task, is the call
complete, and does its task exist? -/
theorem call_change (painter : Painter) (d : Display) (needs : call.method? = some method) :
    d.call painter call = match d.started method with
      | .error e => ⟨d, some e⟩
      | .ok (tasks, number) => match call.change? with
        | none => ⟨d, some call.lack⟩
        | some change => d.changed tasks number change := by
  cases call with
  | enter => cases needs
  | exit => cases needs
  | start => cases needs
  | update advance description =>
    cases needs
    cases entered : d.started "on_update" with
    | error e => simp only [call, onUpdate, entered]; rfl
    | ok found =>
      obtain ⟨tasks, number⟩ := found
      have checked : d.onUpdate advance description =
          if (advance.filter (· ≠ 0)).isNone && (given description).isNone then
            .error .nothingToUpdate
          else d.change "on_update" ⟨(given description).map fun _ => .inProgress, none, none, advance,
            given description⟩ := by
        rw [onUpdate, entered]
        rfl
      rw [call, checked, Call.change?]
      split
      · rfl
      · rw [attempt_change entered]
        simp only [given_given, Option.isSome_map, if_true]
        cases given description <;> rfl
  | complete description completed total =>
    cases needs
    cases entered : d.started "on_complete" with
    | error e => simp only [call, onComplete, Display.change, entered]; rfl
    | ok found =>
      obtain ⟨tasks, number⟩ := found
      rw [call, onComplete, attempt_change entered, Call.change?]
      cases given (some description) <;> rfl
  | fail description =>
    cases needs
    cases entered : d.started "on_fail" with
    | error e => simp only [call, onFail, Display.change, entered]; rfl
    | ok found =>
      obtain ⟨tasks, number⟩ := found
      rw [call, onFail, attempt_change entered, Call.change?]
      cases given (some description) <;> rfl

theorem started_none (out : d.tasks = none) : d.started method = .error .notEntered := by
  simp only [started, out]

theorem started_some (inside : d.tasks = some tasks) : d.started method = match d.current with
    | none => .error (.notStarted method)
    | some number => .ok (tasks, number) := by
  cases found : d.current <;> simp only [started, inside, found]

theorem tasks_of_started (entered : d.started method = .ok (tasks, number)) :
    d.tasks = some tasks := by
  cases inside : d.tasks with
  | none => simp [started_none inside] at entered
  | some found =>
    rw [started_some inside] at entered
    split at entered
    · cases entered
    · cases entered
      rfl

/-- A call on a started task leaves the number of tasks and the number of the current one. -/
theorem call_frame (painter : Painter) (d : Display) (needs : call.method? = some method) :
    (d.call painter call).display.tasks.map List.length = d.tasks.map List.length ∧
    (d.call painter call).display.current = d.current := by
  rw [call_change painter d needs]
  cases entered : d.started method with
  | error e => exact ⟨rfl, rfl⟩
  | ok found =>
    obtain ⟨tasks, number⟩ := found
    cases call.change? with
    | none => exact ⟨rfl, rfl⟩
    | some change =>
      have inside : d.tasks = some tasks := tasks_of_started entered
      simp only [changed]
      split
      case h_1 => simp [inside]
      case h_2 => exact ⟨rfl, rfl⟩

/-- A start adds a task whether or not the bar can be drawn with it. -/
theorem onStart_some (painter : Painter) (inside : d.tasks = some tasks) (description : String)
    (total : Option Int) :
    let new : Task := { description := Stage.inProgress.mark description, total }
    let answer := d.onStart painter description total
    answer.display.tasks = some (tasks ++ [new]) ∧
    answer.raised = (if d.drawing = .on then painter.draw (tasks ++ [new]) else none).map .undrawn ∧
    answer.display.current = if answer.raised = none then some tasks.length else d.current := by
  intro new answer
  simp only [answer, onStart, inside, create]
  split
  case h_1 complaint wrong => simp [new, wrong]
  case h_2 fine => simp [new, fine]

end Step

section History

/-- The display behind calls, of which the latest stands first. -/
def after (painter : Painter) : List Call → Display
  | [] => {}
  | call :: earlier => ((after painter earlier).call painter call).display

/-- How many starts there were in the context that is open; none if no context is. -/
def context : List Call → Option Nat
  | [] => none
  | .enter :: _ => some 0
  | .exit :: _ => none
  | .start .. :: earlier => (context earlier).map (· + 1)
  | _ :: earlier => context earlier

/-- How many starts there were since the latest entry, exits or not. -/
def begun : List Call → Nat
  | [] => 0
  | .enter :: _ => 0
  | .start .. :: earlier => begun earlier + 1
  | _ :: earlier => begun earlier

/-- The number that the start which returned last, in any context, gave to its task. -/
def lastStarted (painter : Painter) : List Call → Option Nat
  | [] => none
  | .start description total :: earlier =>
    if ((after painter earlier).onStart painter description total).raised = none then
      some (begun earlier)
    else lastStarted painter earlier
  | _ :: earlier => lastStarted painter earlier

theorem enter_eq (painter : Painter) (d : Display) :
    (d.enter painter).display.tasks = some [] ∧ (d.enter painter).display.current = d.current := by
  unfold enter
  split <;> exact ⟨rfl, rfl⟩

theorem exit_eq (painter : Painter) (d : Display) :
    (d.exit painter).display.tasks = d.tasks ∧ (d.exit painter).display.current = d.current := by
  unfold exit
  split <;> exact ⟨rfl, rfl⟩

theorem cases_call (call : Call) : call = .enter ∨ call = .exit ∨
    (∃ description total, call = .start description total) ∨ ∃ method, call.method? = some method := by
  cases call <;> simp [Call.method?]

/-- A call that needs a started task counts for nothing in a history. -/
theorem history_change (needs : call.method? = some method) (earlier : List Call) :
    context (call :: earlier) = context earlier ∧ begun (call :: earlier) = begun earlier ∧
    (.enter ∈ call :: earlier ↔ .enter ∈ earlier) := by
  cases call with
  | enter => cases needs
  | exit => cases needs
  | start => cases needs
  | update => exact ⟨rfl, rfl, by simp⟩
  | complete => exact ⟨rfl, rfl, by simp⟩
  | fail => exact ⟨rfl, rfl, by simp⟩

theorem lastStarted_change (needs : call.method? = some method) (earlier : List Call) :
    lastStarted painter (call :: earlier) = lastStarted painter earlier := by
  cases call <;> first | rfl | cases needs

/-- The tasks of the latest entry stay, also behind an exit. -/
theorem after_tasks (painter : Painter) (history : List Call) :
    (after painter history).tasks.map List.length =
      if .enter ∈ history then some (begun history) else none := by
  induction history with
  | nil => rfl
  | cons call earlier ih =>
    rcases cases_call call with rfl | rfl | ⟨description, total, rfl⟩ | ⟨method, needs⟩
    · simp only [after, Display.call, enter_eq, begun, List.mem_cons_self, if_true]
      rfl
    · simpa [after, Display.call, exit_eq, begun] using ih
    · by_cases entered : .enter ∈ earlier
      · rw [if_pos entered, Option.map_eq_some_iff] at ih
        obtain ⟨tasks, inside, length⟩ := ih
        simp [after, Display.call, onStart_some painter inside, entered, begun, length]
      · rw [if_neg entered, Option.map_eq_none_iff] at ih
        simp [after, Display.call, onStart, ih, entered]
    · obtain ⟨_, count, entered⟩ := history_change needs earlier
      rw [after, (call_frame painter _ needs).1, ih]
      simp only [count, entered]

theorem tasks_eq_none (painter : Painter) (history : List Call) :
    (after painter history).tasks = none ↔ .enter ∉ history := by
  have length := after_tasks painter history
  rw [← Option.map_eq_none_iff, length]
  simp

theorem tasks_eq_some (painter : Painter) (entered : .enter ∈ history) :
    ∃ tasks, (after painter history).tasks = some tasks ∧ tasks.length = begun history := by
  have length := after_tasks painter history
  rw [if_pos entered] at length
  simpa only [Option.map_eq_some_iff] using length

/-- Neither an exit nor an entry makes the display forget what was started last. -/
theorem after_current (painter : Painter) (history : List Call) :
    (after painter history).current = lastStarted painter history := by
  induction history with
  | nil => rfl
  | cons call earlier ih =>
    rcases cases_call call with rfl | rfl | ⟨description, total, rfl⟩ | ⟨method, needs⟩
    · simpa [after, Display.call, enter_eq, lastStarted] using ih
    · simpa [after, Display.call, exit_eq, lastStarted] using ih
    · rw [lastStarted, ← ih, after, Display.call]
      by_cases entered : .enter ∈ earlier
      · obtain ⟨tasks, inside, length⟩ := tasks_eq_some painter entered
        rw [(onStart_some painter inside description total).2.2, length]
      · have out := (tasks_eq_none painter earlier).mpr entered
        simp only [onStart, out, reduceCtorEq, if_false]
    · rw [after, (call_frame painter _ needs).2, ih, lastStarted_change needs]

/-- In an open context all starts since the entry were made in it. -/
theorem context_eq_some {started : Nat} (inside : context history = some started) :
    .enter ∈ history ∧ begun history = started := by
  induction history generalizing started with
  | nil => cases inside
  | cons call earlier ih =>
    rcases cases_call call with rfl | rfl | ⟨description, total, rfl⟩ | ⟨method, needs⟩
    · exact ⟨List.mem_cons_self, Option.some.inj inside⟩
    · cases inside
    · obtain ⟨before, opened, rfl⟩ := Option.map_eq_some_iff.mp inside
      obtain ⟨entered, count⟩ := ih opened
      exact ⟨List.mem_cons_of_mem _ entered, congrArg (· + 1) count⟩
    · obtain ⟨same, count, entered⟩ := history_change needs earlier
      rw [entered, count]
      exact ih (same ▸ inside)

/-- Where every task can be drawn, the start that returned last in an open context is the last one. -/
theorem lastStarted_of_context (draws : ∀ tasks, painter.draw tasks = none) {started : Nat}
    (inside : context history = some (started + 1)) : lastStarted painter history = some started := by
  induction history with
  | nil => cases inside
  | cons call earlier ih =>
    rcases cases_call call with rfl | rfl | ⟨description, total, rfl⟩ | ⟨method, needs⟩
    · cases inside
    · cases inside
    · obtain ⟨before, opened, same⟩ := Option.map_eq_some_iff.mp inside
      obtain ⟨entered, count⟩ := context_eq_some opened
      obtain ⟨tasks, here, _⟩ := tasks_eq_some painter entered
      have returned : ((after painter earlier).onStart painter description total).raised = none := by
        rw [(onStart_some painter here description total).2.1, draws, ite_self, Option.map_none]
      rw [lastStarted, if_pos returned, count, Nat.succ.inj same]
    · rw [(history_change needs earlier).1] at inside
      rw [lastStarted_change needs, ih inside]

end History
end Display

section Lifecycle
open Display
variable {painter : Painter} {history : List Call} {call : Call} {method : String}

/-- A call is refused as one that is made at the wrong time. -/
def Refused (answer : Answer) : Prop :=
  answer.raised = some .notEntered ∨ ∃ method, answer.raised = some (.notStarted method)

/-- What a call does to the tasks of the latest entry. A start adds one. Any other call is about the
number that the start which returned last gave to its task, in whichever context that was. -/
structure Account (painter : Painter) (history : List Call) (tasks : List Task) (call : Call)
    (answer : Answer) : Prop where
  start {description : String} {total : Option Int} : call = .start description total →
    let new : Task := { description := Stage.inProgress.mark description, total }
    let drawn := if (after painter history).drawing = .on then painter.draw (tasks ++ [new]) else none
    answer.display.tasks = some (tasks ++ [new]) ∧ answer.raised = drawn.map .undrawn
  unstarted {method : String} : call.method? = some method → lastStarted painter history = none →
    answer = ⟨after painter history, some (.notStarted method)⟩
  incomplete {method : String} {number : Nat} : call.method? = some method →
    lastStarted painter history = some number → call.change? = none →
    answer = ⟨after painter history, some call.lack⟩
  acts {number : Nat} {change : Task → Task} (within : number < tasks.length) :
    lastStarted painter history = some number → call.change? = some change →
    answer = ⟨{ after painter history with
      tasks := some (tasks.set number (change tasks[number])) }, none⟩
  unknown {number : Nat} {change : Task → Task} : tasks.length ≤ number →
    lastStarted painter history = some number → call.change? = some change →
    answer = ⟨after painter history, some (.update .unknownTask)⟩

theorem account (painter : Painter) {tasks : List Task}
    (inside : (after painter history).tasks = some tasks) (call : Call) :
    Account painter history tasks call ((after painter history).call painter call) := by
  have answered {method : String} (needs : call.method? = some method) :
      (after painter history).call painter call = _ := call_change painter _ needs
  have complete {change : Task → Task} (found : call.change? = some change) :
      ∃ method, call.method? = some method := by
    rcases cases_call call with rfl | rfl | ⟨description, total, rfl⟩ | needs
    · cases found
    · cases found
    · cases found
    · exact needs
  constructor
  case start =>
    rintro description total rfl
    obtain ⟨added, raised, _⟩ := onStart_some painter inside description total
    exact ⟨added, raised⟩
  case unstarted =>
    intro method needs never
    rw [answered needs, started_some inside, after_current, never]
  case incomplete =>
    intro method number needs last lacks
    rw [answered needs, started_some inside, after_current, last, lacks]
  case acts =>
    intro number change within last found
    obtain ⟨method, needs⟩ := complete found
    rw [answered needs, started_some inside, after_current, last, found]
    simp only [changed, List.getElem?_eq_getElem within]
  case unknown =>
    intro number change beyond last found
    obtain ⟨method, needs⟩ := complete found
    rw [answered needs, started_some inside, after_current, last, found]
    simp only [changed, List.getElem?_eq_none beyond]

theorem call_outside (painter : Painter) (never : .enter ∉ history) (enter : call ≠ .enter)
    (exit : call ≠ .exit) :
    (after painter history).call painter call = ⟨after painter history, some .notEntered⟩ := by
  have out := (tasks_eq_none painter history).mpr never
  rcases cases_call call with rfl | rfl | ⟨description, total, rfl⟩ | ⟨method, needs⟩
  · exact absurd rfl enter
  · exact absurd rfl exit
  · simp only [Display.call, onStart, out]
  · rw [call_change painter _ needs, started_none out]

/-- A call that needs a started task is refused exactly if there is none, in whichever context. -/
theorem refused_iff (painter : Painter) (history : List Call) (needs : call.method? = some method) :
    Refused ((after painter history).call painter call) ↔
      .enter ∉ history ∨ lastStarted painter history = none := by
  constructor
  · intro refused
    by_contra started
    obtain ⟨entered, remembered⟩ := not_or.mp started
    obtain ⟨number, last⟩ := Option.ne_none_iff_exists'.mp remembered
    obtain ⟨tasks, inside, _⟩ := tasks_eq_some painter (not_not.mp entered)
    have known := account painter inside call
    cases found : call.change? with
    | none =>
      rw [known.incomplete needs last found, Refused] at refused
      cases call <;> simp [Call.lack] at refused
    | some change =>
      by_cases within : number < tasks.length
      · rw [known.acts within last found, Refused] at refused
        simp at refused
      · rw [known.unknown (Nat.not_lt.mp within) last found, Refused] at refused
        simp at refused
  · intro missing
    by_cases entered : .enter ∈ history
    · obtain ⟨tasks, inside, _⟩ := tasks_eq_some painter entered
      have never := missing.resolve_left (not_not.mpr entered)
      exact .inr ⟨method, by rw [(account painter inside call).unstarted needs never]⟩
    · left
      rw [call_outside painter entered]
      · rintro rfl
        cases needs
      · rintro rfl
        cases needs

/-- Any call after any history, of which the latest call stands first. Before the first entry every
call is refused, and afterwards the tasks of the latest entry are at hand, in a context or not.

So a start outside of a context is refused only if there was no entry at all, and other calls outside
of a context or before its first start are refused only if there was none or no start ever returned.
In a context the last task is the one of its latest start, and other calls are about it unless that
start was one that could not be drawn. -/
theorem call_after (painter : Painter) (history : List Call) (call : Call) :
    let d := after painter history
    let answer := d.call painter call
    (.enter ∉ history → call ≠ .enter → call ≠ .exit → answer = ⟨d, some .notEntered⟩) ∧
    (.enter ∈ history → ∃ tasks, d.tasks = some tasks ∧ tasks.length = begun history ∧
      Account painter history tasks call answer) ∧
    (context history = none → ∀ description total, call = .start description total →
      (Refused answer ↔ .enter ∉ history)) ∧
    (context history = none ∨ context history = some 0 → ∀ method, call.method? = some method →
      (Refused answer ↔ .enter ∉ history ∨ lastStarted painter history = none)) ∧
    ∀ started, context history = some (started + 1) →
      .enter ∈ history ∧ begun history = started + 1 ∧
      ((∀ tasks, painter.draw tasks = none) → lastStarted painter history = some started) := by
  intro d answer
  refine ⟨call_outside painter, fun entered => ?_, ?_, ?_, ?_⟩
  · obtain ⟨tasks, inside, length⟩ := tasks_eq_some painter entered
    exact ⟨tasks, inside, length, account painter inside call⟩
  · rintro _ description total rfl
    constructor
    · intro refused entered
      obtain ⟨tasks, inside, _⟩ := tasks_eq_some painter entered
      have raised := ((account painter inside (.start description total)).start rfl).2
      rw [Refused, raised] at refused
      simp at refused
    · intro never
      exact .inl (congrArg Answer.raised (call_outside painter never (by simp) (by simp)))
  · intro _ method needs
    exact refused_iff painter history needs
  · intro started opened
    obtain ⟨entered, count⟩ := context_eq_some opened
    exact ⟨entered, count, fun draws => lastStarted_of_context draws opened⟩

/-- In a context, behind its start, an update changes the task of that start. -/
theorem call_after_start :
    ((after .standard [.start "Go" (some 3), .enter]).call .standard (.update (some 1) none)).display =
      { tasks := some [⟨"[magenta]Go", some 3, 1, false⟩], current := some 0, drawing := .on } := by
  let update : Call := .update (some 1) none
  obtain ⟨_, entered, _⟩ := call_after .standard [.start "Go" (some 3), .enter] update
  obtain ⟨tasks, inside, length, known⟩ := entered (by decide)
  have started : lastStarted .standard [.start "Go" (some 3), .enter] = some 0 := by decide
  have one : tasks = [⟨"[magenta]Go", some 3, 0, false⟩] := by
    exact Option.some.inj (inside.symm.trans (by decide))
  subst one
  rw [known.acts (by decide) started rfl]
  decide

/-- Behind an exit an update still changes the task, and behind another entry it finds none, where
each should be refused. -/
theorem call_after_exit :
    let left := [.exit, .start "Go" (some 3), .enter]
    context left = none ∧ context (.enter :: left) = some 0 ∧
    (after .standard left).call .standard (.update (some 1) none) =
      ⟨{ tasks := some [⟨"[magenta]Go", some 3, 1, false⟩], current := some 0 }, none⟩ ∧
    ((after .standard (.enter :: left)).call .standard (.update (some 1) none)).raised =
      some (.update .unknownTask) := by
  decide

end Lifecycle
end LineBudget.Progress
