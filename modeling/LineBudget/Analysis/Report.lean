import LineBudget.Analysis.Severity
import LineBudget.Count.Basic
import LineBudget.Files.Path

/-! The rows of a report: every file and every directory with its limit. -/
namespace LineBudget.Analysis
open LineBudget.Count

inductive Subject where
  | file
  | directory
  deriving DecidableEq, Repr

def Subject.name : Subject → String
  | .file => "file"
  | .directory => "directory"

structure Row where
  path : String
  subject : Subject
  lines : Int
  limit : Int
  threshold : Int
  severity : Severity
  deriving DecidableEq, Repr

/-- Rows in the order in which they were recorded, and how many there are of each severity. -/
structure Report where
  rows : List Row := []
  errors : Nat := 0
  warnings : Nat := 0
  passed : Nat := 0
  deriving DecidableEq, Repr

def Report.total (r : Report) : Nat := r.errors + r.warnings + r.passed

def Report.record (r : Report) (row : Row) : Report :=
  let recorded := { r with rows := r.rows ++ [row] }
  match row.severity with
  | .pass => { recorded with passed := r.passed + 1 }
  | .warn => { recorded with warnings := r.warnings + 1 }
  | .error => { recorded with errors := r.errors + 1 }

def Report.ofRows (rows : List Row) : Report := rows.foldl Report.record {}

/-- The limits of files and directories, and the percentage above them that only warns. -/
structure Limits where
  file : Int
  directory : Int
  percentage : Int
  deriving DecidableEq, Repr

def slashed (path : String) : String :=
  String.ofList (path.toList.map fun c => if c = '\\' then '/' else c)

def directoryOf (path : String) : String :=
  let directory := String.ofList (Files.directoryOf (slashed path).toList)
  if directory.isEmpty then "." else directory

/-- Adds lines to the sum of a directory. A new directory comes last. -/
def addLines (directory : String) (lines : Nat) : List (String × Nat) → List (String × Nat)
  | [] => [(directory, lines)]
  | (other, sum) :: rest =>
    if other = directory then (other, sum + lines) :: rest
    else (other, sum) :: addLines directory lines rest

/-- The lines of the files directly in each directory, directories in the order of their first
file. -/
def directoryLines (counts : List FileCount) (mode : Mode) : List (String × Nat) :=
  counts.foldl (fun sums c => addLines (directoryOf c.path) (c.lines mode) sums) []

def fileRow (limits : Limits) (mode : Mode) (c : FileCount) : Row :=
  let most := threshold limits.file limits.percentage
  { path := slashed c.path
    subject := .file
    lines := c.lines mode
    limit := limits.file
    threshold := most
    severity := judge (c.lines mode) limits.file most }

def directoryRow (limits : Limits) (sums : List (String × Nat)) (directory : String) : Row :=
  let lines := (sums.lookup directory).getD 0
  let most := threshold limits.directory limits.percentage
  { path := if directory = "." then "./" else directory ++ "/"
    subject := .directory
    lines
    limit := limits.directory
    threshold := most
    severity := judge lines limits.directory most }

/-- The report on counted files and on directories, files first. -/
def analyze (counts : List FileCount) (directories : List String) (mode : Mode)
    (limits : Limits) : Report :=
  let sums := directoryLines counts mode
  Report.ofRows (counts.map (fileRow limits mode) ++ directories.map (directoryRow limits sums))

end LineBudget.Analysis
