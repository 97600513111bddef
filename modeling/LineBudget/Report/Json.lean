import LineBudget.Analysis.Report
import LineBudget.Json.Printer
import LineBudget.Number.Numeral

/-! Reports for programs: all rows, and how many there are of each severity. -/
namespace LineBudget.Report
open LineBudget.Analysis

def rowJson (row : Row) : Json := .object [
  ("path", .text row.path), ("type", .text row.subject.name), ("lines", .int row.lines),
  ("limit", .int row.limit), ("threshold", .int row.threshold),
  ("severity", .text row.severity.name)]

def json (report : Analysis.Report) : Json := .object [
  ("results", .list (report.rows.map rowJson)),
  ("summary", .object [
    ("errors", .int report.errors), ("warnings", .int report.warnings),
    ("passed", .int report.passed), ("total", .int report.total)])]

def integers (report : Analysis.Report) : List Int :=
  report.rows.flatMap (fun row => [row.lines, row.limit, row.threshold]) ++
    [(report.errors : Int), report.warnings, report.passed, report.total]

/-- The report as one JSON document on lines of its own. -/
def jsonText (report : Analysis.Report) : String := (json report).print ++ "\n"

end LineBudget.Report
