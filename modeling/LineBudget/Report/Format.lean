import LineBudget.Report.Text
import LineBudget.Report.Json

/-! The two formats of a report. -/
namespace LineBudget.Report

inductive Format where
  | text
  | json
  deriving DecidableEq, Repr

def Format.name : Format → String
  | .text => "text"
  | .json => "json"

def Format.ofName? (name : String) : Option Format :=
  [Format.text, .json].find? (·.name = name)

/-- Whether a report can be written: no integer in it has too many digits. Text shows only limits
that a number of lines has passed. -/
def isWritable (format : Format) (report : Analysis.Report) : Bool :=
  match format with
  | .text => true
  | .json => (integers report).all Number.isWritable

/-- The report in a format. Warnings and colours are for people only. -/
def render (format : Format) (locale : Message.Locale) (colours : Bool)
    (report : Analysis.Report) (warnings : List String) (console : Console := .standard) : String :=
  match format with
  | .text => text locale colours report warnings console
  | .json => jsonText report

end LineBudget.Report
