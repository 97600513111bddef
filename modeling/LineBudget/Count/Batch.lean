import LineBudget.Count.File

/-! Counting many files at once. The units of work finish in some order, which is a parameter here:
what is returned does not hang on it, and what is shown on the way follows it. -/
namespace LineBudget.Count

inductive DisplayCall where
  | enter
  | start (description : String) (total : Nat)
  | advance
  | complete (description : String) (completed : Nat)
  | fail (description : String)
  | exit (failure : Option Failure)
  deriving DecidableEq, Repr

structure Batch where
  outcome : Except Failure (List FileCount)
  calls : List DisplayCall
  notes : List String

/-- The results so far, one slot for each file, and the failures in the order they were seen. -/
structure Collected where
  slots : List (Option FileCount)
  failures : List (String × Failure)

def Collected.add (units : List (String × Except Failure FileCount)) (c : Collected)
    (index : Nat) : Collected :=
  match units[index]? with
  | none => c
  | some (_, .ok count) => { c with slots := c.slots.set index (some count) }
  | some (path, .error failure) => { c with failures := c.failures ++ [(path, failure)] }

/-- Takes in all units in the order in which they finish. -/
def collect (units : List (String × Except Failure FileCount)) (order : List Nat) : Collected :=
  order.foldl (Collected.add units) ⟨List.replicate units.length none, []⟩

/-- Counts the files of a batch. Every unit runs to its end; the first failure that is seen fails
the batch, and without one the results stand in the order of the paths. -/
def countAll (count : String → Except Failure FileCount) (paths : List String) (modeName : String)
    (workers : Option Int) (order : List Nat) : Batch :=
  if paths.isEmpty then ⟨.ok [], [], []⟩
  else
    let collected := collect (paths.map fun path => (path, count path)) order
    let workers : Int := workers.getD paths.length
    let started := s!"Counting {paths.length} files in {modeName} mode with {workers} workers"
    let failed := collected.failures.map fun (path, failure) =>
      s!"Failed to count {path}: {failure.message}"
    let opening : List DisplayCall :=
      .enter :: .start s!"Counting lines in {paths.length} files..." paths.length ::
        order.map fun _ => .advance
    match collected.failures.head? with
    | some (_, failure) => {
        outcome := .error failure
        calls := opening ++
          [.fail s!"Failed to count lines: {failure.message}", .exit (some failure)]
        notes := started :: failed }
    | none => {
        outcome := .ok (collected.slots.filterMap id)
        calls := opening ++
          [.complete s!"Counted lines in {paths.length} files." paths.length, .exit none]
        notes := [started] }

end LineBudget.Count
