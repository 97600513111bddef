/-! A place in the text of a YAML document, and the classes of characters. The text ends its lines
with line feeds, or with the three other line breaks of Unicode. -/
namespace LineBudget.Yaml

/-- Why a text is no document, or holds a scalar that its tag does not allow. -/
inductive Fault where
  /-- Malformed in any way that only its text shows. -/
  | malformed
  /-- A numeric escape past the last code point. -/
  | escapeOutOfRange
  | escapeTooLarge
  deriving DecidableEq, Repr

def isBreak (c : Char) : Bool :=
  c = '\n' || c.toNat = 0x85 || c.toNat = 0x2028 || c.toNat = 0x2029

def isWhite (c : Char) : Bool := c = ' ' || c = '\t' || isBreak c

def whiteOrEnd : Option Char → Bool
  | some c => isWhite c
  | none => true

def breakOrEnd : Option Char → Bool
  | some c => isBreak c
  | none => true

/-- A space, a line break or the end of the text; a tab is none of them. -/
def spaceOrEnd : Option Char → Bool
  | some c => c = ' ' || isBreak c
  | none => true

def isNameChar (c : Char) : Bool := c.isAlphanum || c = '-' || c = '_'

def isAllowed (c : Char) : Bool :=
  let n := c.toNat
  n = 0x09 || n = 0x0A || n = 0x0D || (0x20 ≤ n && n ≤ 0x7E) || n = 0x85 ||
  (0xA0 ≤ n && n ≤ 0xD7FF) || (0xE000 ≤ n && n ≤ 0xFFFD) || 0x10000 ≤ n

/-- What is left of a text of `size` characters, how many stand before it, and the line and
column. -/
structure Cursor where
  rest : List Char
  size : Nat
  index : Nat := 0
  line : Nat := 0
  column : Nat := 0
  deriving Repr

namespace Cursor

def start (text : List Char) : Cursor := { rest := text, size := text.length }

def left (c : Cursor) : Nat := c.size - c.index

def peek (c : Cursor) : Option Char := c.rest.head?

def peekAt (c : Cursor) (n : Nat) : Option Char := c.rest[n]?

def sees (c : Cursor) (x : Char) : Bool := c.peek = some x

/-- One character on. A byte order mark takes up no column. -/
def next (c : Cursor) : Cursor :=
  match c.rest with
  | [] => c
  | x :: rest =>
    if isBreak x then { c with rest, index := c.index + 1, line := c.line + 1, column := 0 }
    else { c with
      rest
      index := c.index + 1
      column := if x = '\uFEFF' then c.column else c.column + 1 }

def skip : Nat → Cursor → Cursor
  | 0, c => c
  | n + 1, c => skip n c.next

def takeWhile (c : Cursor) (p : Char → Bool) : List Char × Cursor :=
  let run := c.rest.takeWhile p
  (run, c.skip run.length)

def skipWhile (c : Cursor) (p : Char → Bool) : Cursor := (c.takeWhile p).2

def skipSpaces (c : Cursor) : Cursor := c.skipWhile (· = ' ')

/-- A line break as it counts in a scalar: the line and paragraph separators stay what they are. -/
def lineBreak (c : Cursor) : List Char × Cursor :=
  match c.peek with
  | some x =>
    if x = '\n' || x.toNat = 0x85 then (['\n'], c.next)
    else if isBreak x then ([x], c.next)
    else ([], c)
  | none => ([], c)

/-- Three hyphens or three dots before white space, which mark the start or end of a document. -/
def seesMarker (c : Cursor) (x : Char) : Bool :=
  [x, x, x].isPrefixOf c.rest && whiteOrEnd (c.peekAt 3)

def seesAnyMarker (c : Cursor) : Bool := c.seesMarker '-' || c.seesMarker '.'

/-- A comment up to the end of its line, if one starts here. -/
def skipComment (c : Cursor) : Cursor :=
  if c.sees '#' then c.skipWhile (!isBreak ·) else c

end Cursor
end LineBudget.Yaml
