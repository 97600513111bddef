import LineBudget.Ignore.Glob
import LineBudget.Text.Blank
import LineBudget.Text.Split

/-! Exclude patterns. A pattern is read segment by segment into a sequence of atoms, which is
matched from the start of a path. -/
namespace LineBudget.Ignore

inductive Atom where
  /-- Any directories in front, or none. -/
  | leadingDirectories
  /-- Any directories in between, or none. -/
  | innerDirectories
  | slash
  | literal (c : Char)
  | one
  | run
  /-- A name of any length but zero. -/
  | name
  | set (negated : Bool) (ranges : List CharRange)
  /-- The end of an entry: a slash with anything after it, or the end of the path. -/
  | entryEnd
  /-- A slash with anything after it. -/
  | below (byDirectory : Bool)
  deriving DecidableEq, Repr

inductive Shape where
  | everything
  | nested (byDirectory : Bool)
  | anchored (atoms : List Atom)
  deriving DecidableEq, Repr

structure Pattern where
  /-- Matching paths are let in again. -/
  negated : Bool
  shape : Shape
  deriving DecidableEq, Repr

inductive PatternError where
  | empty (pattern : String)
  | danglingEscape (pattern : String) (segment : List Char)
  | reversedRange (first last : Char) (position : Nat)
  deriving DecidableEq, Repr

namespace PatternError

def setChar (c : Char) : String := if c = '\\' then "\\\\" else c.toString

def message : PatternError → String
  | .empty pattern | .danglingEscape pattern _ => s!"Invalid git pattern: {Text.literal pattern}"
  | .reversedRange first last position =>
    s!"bad character range {setChar first}-{setChar last} at position {position}"

/-- What is behind the error, where there is more to say. -/
def reason? : PatternError → Option String
  | .empty _ => some "Pattern normalized to nothing."
  | .danglingEscape _ segment =>
    some s!"Escape character found with no next character to escape: {Text.literal (String.ofList segment)}"
  | .reversedRange _ _ _ => none

end PatternError

/-- Two stars, which as a segment stand for any directories. -/
def anyDirectories : List Char := ['*', '*']

/-- Segments with adjacent double stars made one. -/
def collapseStars : List (List Char) → List (List Char)
  | [] => []
  | segment :: rest =>
    match collapseStars rest with
    | next :: others =>
      if segment = anyDirectories ∧ next = anyDirectories then next :: others
      else segment :: next :: others
    | [] => [segment]

/-- The segments of a pattern as they are matched. A pattern of one segment matches at any depth,
and a slash at the end asks for what is below a directory. -/
def normalSegments (text : List Char) : List (List Char) :=
  let segments := Text.pieces '/' text
  let rooted := match segments with
    | [] :: rest => rest
    | [single] | [single, []] =>
      if single = anyDirectories then segments else anyDirectories :: segments
    | _ => segments
  collapseStars (if rooted.getLast? = some [] then rooted.dropLast ++ [anyDirectories] else rooted)

/-- The length of a character in the written expression, where some are escaped. -/
def literalColumns (c : Char) : Nat :=
  if "()[]\x7b\x7d?*+-|^$\\.&~# \t\n\r\x0b\x0c".contains c then 2 else 1

/-- The atoms of a name's glob; `column` is where it starts in the written expression. -/
def globAtoms (column : Nat) : List Piece → Except PatternError (List Atom)
  | [] => .ok []
  | .literal c :: rest => (globAtoms (column + literalColumns c) rest).map (.literal c :: ·)
  | .one :: rest => (globAtoms (column + 4) rest).map (.one :: ·)
  | .run :: rest => (globAtoms (column + 5) rest).map (.run :: ·)
  | .set negated body :: rest =>
    let start := column + if negated then 2 else 1
    match readRanges start body with
    | .error range => .error (.reversedRange range.first range.last range.offset)
    | .ok ranges =>
      (globAtoms (start + totalColumns columns body + 1) rest).map (.set negated ranges :: ·)

inductive Segment where
  | directories
  | anyName
  | glob (pieces : List Piece)
  deriving DecidableEq, Repr

def readSegment (segment : List Char) : Except GlobDefect Segment :=
  if segment = anyDirectories then .ok .directories
  else if segment = ['*'] then .ok .anyName
  else (readGlob segment).map .glob

def pieceColumns : Piece → Nat
  | .literal c => literalColumns c
  | .one => 4
  | .run => 5
  | .set negated body => (if negated then 3 else 2) + totalColumns columns body

/-- The atoms of the segments after the first; each stands after a slash. -/
def laterAtoms (byDirectory slash : Bool) (column : Nat) :
    List Segment → Except PatternError (List Atom)
  | [] => .ok [.entryEnd]
  | [.directories] => .ok [.below byDirectory]
  | .directories :: rest =>
    (laterAtoms byDirectory true (column + 8) rest).map (.innerDirectories :: ·)
  | segment :: rest => do
    let gap := if slash then [Atom.slash] else []
    let column := column + gap.length
    let (atoms, width) ← match segment with
      | .glob pieces => do
        let atoms ← globAtoms column pieces
        pure (atoms, totalColumns pieceColumns pieces)
      | _ => pure ([Atom.name], 5)
    let later ← laterAtoms byDirectory true (column + width) rest
    return gap ++ atoms ++ later

def atoms (byDirectory : Bool) (segments : List Segment) : Except PatternError (List Atom) :=
  match segments with
  | .directories :: rest => (laterAtoms byDirectory false 9 rest).map (.leadingDirectories :: ·)
  | _ => laterAtoms byDirectory false 1 segments

/-- The shape of segments that need no matching of names. -/
def simpleShape? (byDirectory : Bool) (segments : List (List Char)) : Option Shape :=
  if segments = [anyDirectories] then
    some (if byDirectory then .nested true else .everything)
  else if segments = [anyDirectories, ['*']] then some .everything
  else if segments = [anyDirectories, ['*'], anyDirectories] then some (.nested byDirectory)
  else none

/-- A pattern text without the blanks at its end, unless the last one is escaped. -/
def dropEndBlanks (text : List Char) : List Char :=
  if "\\ ".toList.isSuffixOf text then text else Text.trimEnd text

/-- Reads a pattern. Empty ones, comments, a lone slash and globs with an open set do nothing. -/
def Pattern.ofText (text : String) : Except PatternError (Option Pattern) :=
  let line := dropEndBlanks text.toList
  if line.isEmpty || line.head? = some '#' || line = ['/'] then .ok none
  else
    let (negated, body) := match line with
      | '!' :: rest => (true, rest)
      | rest => (false, rest)
    let byDirectory := body.isEmpty || body.getLast? = some '/'
    let segments := normalSegments body
    if segments.isEmpty then .error (.empty text)
    else match simpleShape? byDirectory segments with
      | some shape => .ok (some ⟨negated, shape⟩)
      | none => match segments.mapM readSegment with
        | .error .openSet => .ok none
        | .error (.danglingEscape segment) => .error (.danglingEscape text segment)
        | .ok read => (atoms byDirectory read).map fun atoms => some ⟨negated, .anchored atoms⟩

end LineBudget.Ignore
