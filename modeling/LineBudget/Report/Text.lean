import LineBudget.Analysis.Report
import LineBudget.Console.Basic
import LineBudget.Message.Template

/-! Reports for people: what is above a limit, and how many rows there are of each severity. -/
namespace LineBudget.Report
open LineBudget.Analysis

inductive Colour where
  | yellow
  | red
  deriving DecidableEq, Repr

def Colour.code : Colour → String
  | .yellow => "\x1b[33m"
  | .red => "\x1b[31m"

/-- The variable that asks for output without colours. -/
def colourVariable : String := "NO_COLOR"

/-- Colours are for terminals, unless the variable is set to something. -/
def showsColours (terminal : Bool) (setting : Option String) : Bool :=
  terminal && (setting.filter (· ≠ "")).isNone

/-- One line of output; only a terminal shows its colour. -/
structure Line where
  text : String
  colour : Option Colour := none
  deriving DecidableEq, Repr

/-- A line as the console shows it. -/
def Line.render (console : Console) (colours : Bool) (line : Line) : String :=
  let shown := String.ofList (console.shown line.text.toList)
  match line.colour with
  | some colour => if colours then colour.code ++ shown ++ "\x1b[0m\n" else shown ++ "\n"
  | none => shown ++ "\n"

def blankLine : Line := { text := "" }

/-- The line about a row, if it is above its limit. -/
def rowLine? (locale : Message.Locale) (row : Row) : Option Line :=
  let text (key : String) : String :=
    "  " ++ Message.say locale key [row.path, toString row.lines, toString row.limit]
  match row.severity with
  | .pass => none
  | .warn => some ⟨text "check.warn", some .yellow⟩
  | .error => some ⟨text "check.error", some .red⟩

/-- Lines with a blank one behind them, if there are any. -/
def closed (lines : List Line) : List Line :=
  if lines.isEmpty then [] else lines ++ [blankLine]

def lines (locale : Message.Locale) (report : Analysis.Report) (warnings : List String) :
    List Line :=
  closed (warnings.map fun w => ⟨"  WARN  " ++ w, some .yellow⟩) ++
  closed (report.rows.filterMap (rowLine? locale)) ++
  [{ text := Message.say locale "check.summary"
      [toString report.errors, toString report.warnings, toString report.passed] }]

/-- The report as text, with colours or without. -/
def text (locale : Message.Locale) (colours : Bool) (report : Analysis.Report)
    (warnings : List String) (console : Console := .standard) : String :=
  String.join ((lines locale report warnings).map (Line.render console colours))

end LineBudget.Report
