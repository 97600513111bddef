import LineBudget.Console.Markup
import LineBudget.Number.Numeral
import LineBudget.Progress.Task

/-! How tasks are drawn, as far as it can fail: a description is read as markup, and the numbers of a
task are written out. -/
namespace LineBudget.Progress

/-- Why a task cannot be drawn. -/
inductive Complaint where
  | markup (message : String)
  /-- A number with too many digits. -/
  | digits
  deriving DecidableEq, Repr

def Complaint.message : Complaint → String
  | .markup message => message
  | .digits => s!"{Number.beyondMaxDigits}; {Number.increaseMaxDigits}"

/-- The style in which descriptions are drawn. -/
def descriptionStyle : String := "[progress.description]"

/-- Both numbers of a task can be written out. -/
def Task.isWritable (task : Task) : Bool :=
  Number.isWritable task.completed && task.total.all Number.isWritable

structure Painter where
  /-- Why a task cannot be drawn, if it cannot. -/
  complaint : Task → Option Complaint
  /-- Whether only one bar can be drawn at a time. -/
  exclusive : Bool
  /-- Only a closing word in a description makes bad markup. -/
  draws (task : Task) : ¬ ['[', '/'] <:+: task.description.toList → task.isWritable = true →
    complaint task = none

/-- A style has no part in a closing word behind it. -/
theorem closes_style {text : List Char} (closes : ['[', '/'] <:+: descriptionStyle.toList ++ text) :
    ['[', '/'] <:+: text := by
  simpa [descriptionStyle, List.infix_cons_iff] using closes

namespace Painter

/-- Draws each bar on a console of its own. -/
def standard : Painter where
  complaint task :=
    match Console.complaintFrom 0 0 0 [] (descriptionStyle ++ task.description).toList with
    | some message => some (.markup message)
    | none => if task.isWritable then none else some .digits
  exclusive := false
  draws task plain writable := by
    split
    case h_1 message wrong =>
      rw [String.toList_append] at wrong
      exact absurd (closes_style (Console.closes_of_complaintFrom wrong)) plain
    case h_2 => rw [if_pos writable]

/-- Draws all tasks of a bar, up to the first that cannot be drawn. -/
def draw (painter : Painter) (tasks : List Task) : Option Complaint :=
  tasks.findSome? painter.complaint

end Painter
end LineBudget.Progress
