import LineBudget.Language.Grammar
import LineBudget.Text.Blank

/-! Which lines of a file are code. Lines are judged in order by an automaton whose only memory is
whether a block comment is open; markers inside string literals and nested blocks are not told
apart from real ones. -/
namespace LineBudget.Line
open LineBudget.Language

/-- Whether a block comment is open between two lines. -/
inductive Block where
  | outside
  | inside
  deriving DecidableEq, Repr

/-- `part` occurs in `text` without a gap. -/
def contains (part : List Char) : List Char → Bool
  | [] => part.isEmpty
  | c :: rest => part.isPrefixOf (c :: rest) || contains part rest

def isLineComment (g : Grammar) (line : List Char) : Bool :=
  g.lineMarkers.any fun marker => marker.toList.isPrefixOf line

/-- The line starts with the block opener, or with a docstring delimiter where the grammar has
some. -/
def opensBlock (g : Grammar) (line : List Char) : Bool :=
  if g.docDelimiters.isEmpty then g.blockStart.toList.isPrefixOf line
  else g.docDelimiters.any fun delimiter => delimiter.toList.isPrefixOf line

/-- The line contains the block end. A docstring closes only at the end of a line, and with any
of the delimiters. -/
def closesBlock (g : Grammar) (line : List Char) : Bool :=
  if g.docDelimiters.isEmpty then contains g.blockEnd.toList line
  else g.docDelimiters.any fun delimiter => delimiter.toList.isSuffixOf line

/-- A block opened at the start of the line also closes on it: the closing delimiter of that
opener occurs after it. -/
def closesItself (g : Grammar) (line : List Char) : Bool :=
  let closed (opener closer : String) : Bool :=
    opener.toList.isPrefixOf line && contains closer.toList (line.drop opener.toList.length)
  if g.docDelimiters.isEmpty then closed g.blockStart g.blockEnd
  else g.docDelimiters.any fun delimiter => closed delimiter delimiter

/-- Lines seen so far, those of them that are code, and whether a block is open. -/
structure Tally where
  total : Nat := 0
  code : Nat := 0
  block : Block := .outside
  deriving DecidableEq, Repr

/-- Judges a trimmed line that is not blank, under a grammar. -/
def Tally.judge (g : Grammar) (t : Tally) (trimmed : List Char) : Tally :=
  match t.block with
  | .inside => if closesBlock g trimmed then { t with block := .outside } else t
  | .outside =>
    if g.hasBlocks && opensBlock g trimmed then
      if closesItself g trimmed then t else { t with block := .inside }
    else if isLineComment g trimmed then t
    else { t with code := t.code + 1 }

/-- Adds one line. A blank line is never code; without a grammar every other line is. -/
def Tally.add (grammar : Option Grammar) (t : Tally) (line : List Char) : Tally :=
  let counted := { t with total := t.total + 1 }
  let trimmed := Text.trim line
  if trimmed.isEmpty then counted
  else match grammar with
    | none => { counted with code := counted.code + 1 }
    | some g => counted.judge g trimmed

def classify (grammar : Option Grammar) (lines : List (List Char)) : Tally :=
  lines.foldl (Tally.add grammar) {}

def codeTrace (grammar : Option Grammar) (lines : List (List Char)) : List Nat :=
  go {} lines
where
  go (t : Tally) : List (List Char) → List Nat
    | [] => []
    | line :: rest => (t.add grammar line).code :: go (t.add grammar line) rest

end LineBudget.Line
