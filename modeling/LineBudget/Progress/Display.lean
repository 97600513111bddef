import LineBudget.Progress.Painter

/-! The progress display: one task at a time, in a context that is entered and left. A call that fails
can have changed the display before. -/
namespace LineBudget.Progress

inductive Drawing where
  | off
  | on
  /-- The bar of an earlier entry is drawn, and no call reaches it. -/
  | lost
  deriving DecidableEq, Repr

structure Display where
  /-- The tasks since the latest entry; none before the first. -/
  tasks : Option (List Task) := none
  /-- The task started last. -/
  current : Option Nat := none
  drawing : Drawing := .off
  deriving DecidableEq, Repr

inductive DisplayError where
  | notEntered
  /-- A call that needs a started task. -/
  | notStarted (method : String)
  | nothingToUpdate
  | update (error : UpdateError)
  /-- A bar beside one that is drawn. -/
  | occupied
  | undrawn (complaint : Complaint)
  deriving DecidableEq, Repr

def DisplayError.message : DisplayError → String
  | .notEntered =>
    "RichProgressDisplay must be used as a context manager. Use: with RichProgressDisplay() as rpd:"
  | .notStarted method => s!"on_start() must be called before {method}()"
  | .nothingToUpdate =>
    "At least one of 'advance' or 'description' must be provided to on_update()"
  | .update error => error.message
  | .occupied => "Only one live display may be active at once"
  | .undrawn complaint => complaint.message

/-- A call on a display, with what it is given. -/
inductive Call where
  | enter
  | exit
  | start (description : String) (total : Option Int)
  | update (advance : Option Int) (description : Option String)
  | complete (description : String) (completed : Int) (total : Option Int)
  | fail (description : String)
  deriving DecidableEq, Repr

/-- The display behind a call, and what the call raises, if anything. -/
structure Answer where
  display : Display
  raised : Option DisplayError
  deriving DecidableEq, Repr

namespace Display

/-- Enters the context with no tasks. The number of the task started last is kept. -/
def enter (painter : Painter) (d : Display) : Answer :=
  if painter.exclusive && d.drawing ≠ .off then
    ⟨{ d with tasks := some [], drawing := .lost }, some .occupied⟩
  else ⟨{ d with tasks := some [], drawing := .on }, none⟩

/-- Leaves the context. The bar is drawn once more; the tasks stay, and calls still reach them. -/
def exit (painter : Painter) (d : Display) : Answer :=
  match d.drawing with
  | .on => ⟨{ d with drawing := .off }, (painter.draw (d.tasks.getD [])).map .undrawn⟩
  | _ => ⟨d, none⟩

/-- Adds a task, which is the current one if the bar can be drawn with it. -/
def onStart (painter : Painter) (d : Display) (description : String) (total : Option Int) : Answer :=
  match d.tasks with
  | none => ⟨d, some .notEntered⟩
  | some tasks =>
    let (number, tasks) := create tasks description total
    let added := { d with tasks := some tasks }
    match if d.drawing = .on then painter.draw tasks else none with
    | some complaint => ⟨added, some (.undrawn complaint)⟩
    | none => ⟨{ added with current := some number }, none⟩

/-- The tasks and the number of the current one. -/
def started (d : Display) (method : String) : Except DisplayError (List Task × Nat) :=
  match d.tasks, d.current with
  | none, _ => .error .notEntered
  | some _, none => .error (.notStarted method)
  | some tasks, some number => .ok (tasks, number)

def change (d : Display) (method : String) (update : Update) : Except DisplayError Display := do
  let (tasks, number) ← d.started method
  let tasks ← (Progress.update tasks number update).mapError .update
  return { d with tasks := some tasks }

/-- Advances the task, replaces its description, or both. An advance by zero counts as none. -/
def onUpdate (d : Display) (advance : Option Int) (description : Option String) :
    Except DisplayError Display := do
  let _ ← d.started "on_update"
  let described := given description
  if (advance.filter (· ≠ 0)).isNone && described.isNone then throw .nothingToUpdate
  d.change "on_update"
    { stage := described.map fun _ => .inProgress, advance, description := described }

def onComplete (d : Display) (description : String) (completed : Int) (total : Option Int) :
    Except DisplayError Display :=
  d.change "on_complete"
    { stage := some .complete, completed := some completed, total, description := some description }

def onFail (d : Display) (description : String) : Except DisplayError Display :=
  d.change "on_fail" { stage := some .error, description := some description }

/-- A change that fails leaves the display as it was. -/
def attempt (d : Display) : Except DisplayError Display → Answer
  | .ok next => ⟨next, none⟩
  | .error e => ⟨d, some e⟩

def call (painter : Painter) (d : Display) : Call → Answer
  | .enter => d.enter painter
  | .exit => d.exit painter
  | .start description total => d.onStart painter description total
  | .update advance description => d.attempt (d.onUpdate advance description)
  | .complete description completed total => d.attempt (d.onComplete description completed total)
  | .fail description => d.attempt (d.onFail description)

/-- Carries out the calls of a block that the context encloses. A call that raises is the last one,
but for the exit of a context that is open; what the exit raises takes the place of what was raised
before. -/
def run (painter : Painter) (d : Display) : List Call → Answer
  | [] => ⟨d, none⟩
  | call :: rest =>
    let answer := d.call painter call
    match answer.raised, call with
    | none, _ => run painter answer.display rest
    | some _, .enter | some _, .exit => answer
    | some e, _ =>
      let left := answer.display.exit painter
      ⟨left.display, some (left.raised.getD e)⟩

end Display
end LineBudget.Progress
