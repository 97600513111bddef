import LineBudget.Ignore.Pattern

/-! Matching patterns on paths, and what a list of patterns decides. -/
namespace LineBudget.Ignore

/-- How a pattern matched a path: as the path itself, or as a directory that it lies in or is. -/
inductive Hit where
  | entry
  | directory
  deriving DecidableEq, Repr

/-- A dot of the written expression stands for every character but a line feed. -/
def isDot (c : Char) : Bool := c ≠ '\n'

/-- What may be left after dropping up to `most` characters, the longest drop first. -/
def drops (most : Nat) (path : List Char) : List (List Char) :=
  (List.range (most + 1)).reverse.map path.drop

/-- What may be left after names and slashes in front of a path: after a slash that at least one
character precedes, the last such slash first, and then the whole path. -/
def afterDirectories (path : List Char) : List (List Char) :=
  let reach := (path.takeWhile isDot).length
  let tails := (List.range reach).reverse.filterMap fun n =>
    match path.drop n with
    | '/' :: rest => if n = 0 then none else some rest
    | _ => none
  tails ++ [path]

/-- What may be left of a path after an atom, in the order in which it is tried. -/
def Atom.rests (atom : Atom) (path : List Char) : List (List Char) :=
  match atom, path with
  | .leadingDirectories, path => afterDirectories path
  | .innerDirectories, '/' :: rest =>
    (drops (rest.takeWhile isDot).length rest).dropLast ++ [path]
  | .innerDirectories, path => [path]
  | .slash, '/' :: rest => [rest]
  | .literal c, d :: rest => if c = d then [rest] else []
  | .one, d :: rest => if d ≠ '/' then [rest] else []
  | .run, path => drops (path.takeWhile (· ≠ '/')).length path
  | .name, path => (drops (path.takeWhile (· ≠ '/')).length path).dropLast
  | .set negated ranges, d :: rest =>
    if (ranges.any (·.holds d)) != negated then [rest] else []
  | .entryEnd, _ | .below _, _ => [path]
  | _, [] => []
  | .slash, _ :: _ => []

/-- The end of a path, where a line feed may still stand. -/
def atEnd (path : List Char) : Bool := path = [] || path = ['\n']

/-- The first way in which atoms match the start of a path. -/
def matchAtoms : List Atom → List Char → Option Hit
  | [], _ => some .entry
  | [.entryEnd], path =>
    if path.head? = some '/' then some .directory
    else if atEnd path then some .entry
    else none
  | [.below byDirectory], path =>
    if path.head? = some '/' then some (if byDirectory then .directory else .entry) else none
  | atom :: rest, path => (atom.rests path).findSome? (matchAtoms rest)

def Shape.hit (shape : Shape) (path : List Char) : Option Hit :=
  match shape with
  | .everything => if path.any isDot then some .entry else none
  | .nested byDirectory =>
    if path.contains '/' then some (if byDirectory then .directory else .entry) else none
  | .anchored atoms => matchAtoms atoms path

/-- A path as patterns see it: without a slash, or a dot and a slash, in front, and with a slash
behind a directory. -/
def queryPath (path : List Char) (directory : Bool) : List Char :=
  let full := if directory then path ++ ['/'] else path
  match full with
  | '/' :: rest => rest
  | '.' :: '/' :: rest => rest
  | rest => rest

/-- The patterns that were read from a list of texts, in order. -/
structure Rules where
  patterns : List Pattern := []
  deriving DecidableEq, Repr

/-- Whether the last of the patterns with such a hit excludes; none if there is none. -/
def Rules.verdict? (rules : Rules) (hit : Hit) (path : List Char) : Option Bool :=
  (rules.patterns.reverse.find? fun p => p.shape.hit path = some hit).map fun p => !p.negated

/-- Whether a path is excluded. Hits on the path itself win over hits by directory, and later
patterns over earlier ones. -/
def Rules.excludes (rules : Rules) (path : List Char) (directory : Bool) : Bool :=
  let query := queryPath path directory
  ((rules.verdict? .entry query).or (rules.verdict? .directory query)).getD false

/-- Reads patterns; the first that is none fails the list. -/
def Rules.ofTexts (texts : List String) : Except PatternError Rules :=
  (texts.mapM Pattern.ofText).map fun read => ⟨read.filterMap id⟩

end LineBudget.Ignore
