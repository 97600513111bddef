import LineBudget.Count.Batch
import LineBudget.Progress.Display
import LineBudget.Report.Format

/-! Where the progress of a batch is shown, and what becomes of the batch there. -/
namespace LineBudget.Progress

/-- A progress bar, or nothing at all. -/
inductive Screen where
  | silent
  | bar (display : Display)
  deriving DecidableEq, Repr

/-- A bar is shown only beside a text report and only on a terminal. -/
def Screen.choose (format : Report.Format) (terminal : Bool) : Screen :=
  if format = .text && terminal then .bar {} else .silent

/-- What a call of a batch is on a display. -/
def Call.ofBatch : Count.DisplayCall → Call
  | .enter => .enter
  | .start description total => .start description (some total)
  | .advance => .update (some 1) none
  | .complete description completed => .complete description completed none
  | .fail description => .fail description
  | .exit _ => .exit

/-- Carries out the calls of a batch. A silent screen takes every call and stays as it is. -/
def Screen.run (painter : Painter) (screen : Screen) (calls : List Count.DisplayCall) :
    Screen × Option DisplayError :=
  match screen with
  | .silent => (.silent, none)
  | .bar display =>
    let answer := display.run painter (calls.map .ofBatch)
    (.bar answer.display, answer.raised)

/-- What leaves a batch that comes to nothing. -/
inductive BatchError where
  | file (failure : Count.Failure)
  | display (error : DisplayError)
  deriving DecidableEq, Repr

/-- What a batch comes to when it is shown. Without a screen it is shown on a silent one, and what a
screen raises takes the place of the results. -/
def outcomeOn (painter : Painter) (screen : Option Screen) (batch : Count.Batch) :
    Except BatchError (List Count.FileCount) :=
  match ((screen.getD .silent).run painter batch.calls).2 with
  | some e => .error (.display e)
  | none => batch.outcome.mapError .file

end LineBudget.Progress
