import LineBudget.Count.Basic
import LineBudget.Files.Tree
import LineBudget.Language.Table
import LineBudget.Line.Classify
import LineBudget.Line.Physical

/-! Counting the lines of one file. -/
namespace LineBudget.Count
open LineBudget.Files

/-- Why a file could not be counted. Each case has the path as it was submitted. -/
inductive Failure where
  | unreadable (path : String) (refusal : Refusal)
  | lineTooLong (path : String) (limit : Int)
  | nulInPath (path : String)
  deriving DecidableEq, Repr

def Failure.message : Failure → String
  | .unreadable path _ => s!"Failed to read file: {path}"
  | .lineTooLong path limit => s!"Line exceeds {limit} bytes in file: {path}"
  | .nulInPath _ => "embedded null byte"

/-- The longest line that is accepted where nothing else is said, without its line feed. -/
def lineLimit : Int := 64 * 1024

def countContent (path : String) (mode : Mode) (limit : Int) (content : List UInt8) :
    Except Failure FileCount :=
  match Line.textLines limit content with
  | .error tooLong => .error (.lineTooLong path tooLong.limit)
  | .ok lines => match mode with
    | .all => .ok ⟨path, lines.length, lines.length⟩
    | .codeOnly =>
      let tally := Line.classify (Language.detect path) lines
      .ok ⟨path, tally.total, tally.code⟩

/-- Reads and counts a file. Its language is told from the path as submitted. -/
def countFile (d : Disk) (path : String) (mode : Mode) (limit : Int) : Except Failure FileCount :=
  match d.read (Path.ofText path) with
  | .error .nulInPath => .error (.nulInPath path)
  | .error (.refused refusal) => .error (.unreadable path refusal)
  | .ok content => countContent path mode limit content

end LineBudget.Count
