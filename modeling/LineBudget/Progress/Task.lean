/-! Tasks of a progress bar: what each shows, and how updates change it. -/
namespace LineBudget.Progress

inductive Stage where
  | inProgress
  | complete
  | error
  deriving DecidableEq, Repr

/-- The colour in which a stage is shown. -/
def Stage.colour : Stage → String
  | .inProgress => "magenta"
  | .complete => "green"
  | .error => "red"

def Stage.ofName? : String → Option Stage
  | "IN_PROGRESS" => some .inProgress
  | "COMPLETE" => some .complete
  | "ERROR" => some .error
  | _ => none

/-- A description marked with the colour of its stage. -/
def Stage.mark (stage : Stage) (description : String) : String :=
  s!"[{stage.colour}]{description}"

/-- A task with amounts that are numbers of some kind. -/
structure TaskOf (N : Type) where
  description : String
  /-- None while the amount of work is unknown. -/
  total : Option N
  completed : N := by exact 0
  /-- Set by the first update that reaches the total, and kept until the total changes. -/
  finished : Bool := false
  deriving DecidableEq, Repr

/-- A change of a task; what is not given stays. -/
structure UpdateOf (N : Type) where
  stage : Option Stage := none
  total : Option N := none
  completed : Option N := none
  advance : Option N := none
  description : Option String := none
  deriving DecidableEq, Repr

/-- A task that is counted in whole units. -/
abbrev Task := TaskOf Int

abbrev Update := UpdateOf Int

inductive UpdateError where
  /-- A stage without a description, or a description without a stage. -/
  | unpaired
  | unknownTask
  deriving DecidableEq, Repr

def UpdateError.message : UpdateError → String
  | .unpaired => "progress_state and description must be provided together."
  | .unknownTask => "no such task"

/-- A description that is given and not empty. -/
def given (description : Option String) : Option String := description.filter (· ≠ "")

variable {N : Type} [Add N] [LE N] [DecidableLE N] [BEq N]

/-- A total other than the one there is makes a finished task unfinished; `completed` wins over
`advance`. -/
def TaskOf.apply (task : TaskOf N) (update : UpdateOf N) (text : Option String) : TaskOf N :=
  let renewed := update.total.any fun total => task.total != some total
  let total := if renewed then update.total else task.total
  let advanced := (update.advance.map (task.completed + ·)).getD task.completed
  let completed := update.completed.getD advanced
  { description := text.getD task.description
    total
    completed
    finished := task.finished && !renewed || total.any (· ≤ completed) }

/-- Adds a task at work and gives its number; numbers count from zero. -/
def create [OfNat N 0] (tasks : List (TaskOf N)) (description : String) (total : Option N) :
    Nat × List (TaskOf N) :=
  (tasks.length, tasks ++ [{ description := Stage.inProgress.mark description, total }])

/-- The task with a number, which none below zero has. -/
def numbered (tasks : List (TaskOf N)) (number : Int) : Option (TaskOf N) :=
  if 0 ≤ number then tasks[number.toNat]? else none

/-- Changes one task. -/
def update (tasks : List (TaskOf N)) (number : Int) (change : UpdateOf N) :
    Except UpdateError (List (TaskOf N)) :=
  match change.stage, given change.description with
  | some _, none | none, some _ => .error .unpaired
  | stage, description =>
    match numbered tasks number with
    | none => .error .unknownTask
    | some task =>
      let text := stage.bind fun s => description.map s.mark
      .ok (tasks.set number.toNat (task.apply change text))

end LineBudget.Progress
