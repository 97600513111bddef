import LineBudget.Text.Split

/-! Paths as texts and as lists of names. -/
namespace LineBudget.Files

/-- A path without empty parts and without parts that are a single dot. -/
structure Path where
  /-- Slashes in front: none for a relative path, and two only where exactly two were written. -/
  slashes : Nat := 0
  parts : List String := []
  deriving DecidableEq, Repr, Inhabited

namespace Path

def partsOf (text : String) : List String :=
  ((Text.pieces '/' text.toList).map String.ofList).filter fun part => part ≠ "" && part ≠ "."

def leadingSlashes (text : String) : Nat :=
  match (text.toList.takeWhile (· = '/')).length with
  | 0 => 0
  | 2 => 2
  | _ => 1

def ofText (text : String) : Path := ⟨leadingSlashes text, partsOf text⟩

def isAbsolute (p : Path) : Bool := p.slashes ≠ 0

/-- The text of a path; the empty relative path is a dot. -/
def text (p : Path) : String :=
  let body := "".pushn '/' p.slashes ++ "/".intercalate p.parts
  if body.isEmpty then "." else body

def ofLocation (names : List String) : Path := ⟨1, names⟩

def append (p : Path) (below : List String) : Path := { p with parts := p.parts ++ below }

def contains (p : Path) (c : Char) : Bool := p.parts.any fun part => part.toList.contains c

end Path

/-- The head of a path up to its last slash, without the slashes at the end of the head unless it
has nothing else. -/
def directoryOf (path : List Char) : List Char :=
  let head := (path.reverse.dropWhile (· ≠ '/')).reverse
  if head.all (· = '/') then head else (head.reverse.dropWhile (· = '/')).reverse

end LineBudget.Files
