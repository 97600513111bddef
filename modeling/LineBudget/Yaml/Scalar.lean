import LineBudget.Yaml.Cursor
import LineBudget.Number.Numeral

/-! The texts of scalars in their five styles: plain, single-quoted, double-quoted, literal and
folded. -/
namespace LineBudget.Yaml

abbrev Read := Except Fault (List Char × Cursor)

/-! ### Quoted scalars -/

def simpleEscape? : Char → Option Char
  | '0' => some '\x00'
  | 'a' => some '\x07'
  | 'b' => some '\x08'
  | 't' | '\t' => some '\t'
  | 'n' => some '\n'
  | 'v' => some '\x0B'
  | 'f' => some '\x0C'
  | 'r' => some '\r'
  | 'e' => some '\x1B'
  | ' ' => some ' '
  | '"' => some '"'
  | '\\' => some '\\'
  | '/' => some '/'
  | 'N' => some '\u0085'
  | '_' => some '\u00A0'
  | 'L' => some '\u2028'
  | 'P' => some '\u2029'
  | _ => none

/-- How many hexadecimal digits follow the letter of a numeric escape. -/
def escapeWidth? : Char → Option Nat
  | 'x' => some 2
  | 'u' => some 4
  | 'U' => some 8
  | _ => none

/-- The character of a code point. A half of a surrogate pair reads as U+FFFD. -/
def charOfCode (code : Nat) : Except Fault Char :=
  if 0x7FFFFFFF < code then .error .escapeTooLarge
  else if 0x10FFFF < code then .error .escapeOutOfRange
  else if 0xD800 ≤ code ∧ code < 0xE000 then .ok '\uFFFD'
  else .ok (Char.ofNat code)

def readNumericEscape (width : Nat) (c : Cursor) : Except Fault (Char × Cursor) :=
  let digits := c.rest.take width
  match Number.digitsValue? 16 digits with
  | some code =>
    if digits.length = width then (charOfCode code).map (·, c.skip width) else .error .malformed
  | none => .error .malformed

/-- Blank lines inside a quoted scalar. Each counts as one line break. -/
def quotedBreaks (fuel : Nat) (done : List Char) (c : Cursor) : Read :=
  if c.seesAnyMarker then .error .malformed
  else
    let c := c.skipWhile fun x => x = ' ' || x = '\t'
    match fuel, c.lineBreak with
    | 0, _ | _, ([], _) => .ok (done, c)
    | fuel + 1, (lineEnd, after) => quotedBreaks fuel (done ++ lineEnd) after

/-- White space inside a quoted scalar. A single line break reads as a space. -/
def quotedSpaces (c : Cursor) : Read := do
  let (blanks, c) := c.takeWhile fun x => x = ' ' || x = '\t'
  match c.peek with
  | none => .error .malformed
  | some x =>
    if isBreak x then
      let (lineEnd, c) := c.lineBreak
      let (breaks, c) ← quotedBreaks c.left [] c
      let first := if lineEnd ≠ ['\n'] then lineEnd else if breaks.isEmpty then [' '] else []
      return (first ++ breaks, c)
    else return (blanks, c)

/-- A quoted scalar from after its opening quote; `done` holds its start in reverse. -/
def readQuoted (double : Bool) (fuel : Nat) (done : List Char) (c : Cursor) : Read :=
  match fuel, c.peek with
  | 0, _ | _, none => .error .malformed
  | fuel + 1, some x =>
    if isWhite x then
      match quotedSpaces c with
      | .error e => .error e
      | .ok (spaces, c) => readQuoted double fuel (spaces.reverse ++ done) c
    else if double then
      if x = '"' then .ok (done.reverse, c.next)
      else if x = '\\' then
        let c := c.next
        match c.peek with
        | none => .error .malformed
        | some letter =>
          match simpleEscape? letter, escapeWidth? letter with
          | some y, _ => readQuoted double fuel (y :: done) c.next
          | none, some width =>
            match readNumericEscape width c.next with
            | .error e => .error e
            | .ok (y, c) => readQuoted double fuel (y :: done) c
          | none, none =>
            if isBreak letter then
              let (_, c) := c.lineBreak
              match quotedBreaks c.left [] c with
              | .error e => .error e
              | .ok (breaks, c) => readQuoted double fuel (breaks.reverse ++ done) c
            else .error .malformed
      else readQuoted double fuel (x :: done) c.next
    else if x = '\'' then
      if c.peekAt 1 = some '\'' then readQuoted double fuel ('\'' :: done) (c.skip 2)
      else .ok (done.reverse, c.next)
    else readQuoted double fuel (x :: done) c.next

/-! ### Plain scalars -/

/-- A plain scalar stops before this character, with `after` behind it. -/
def stopsPlain (flow : Bool) (x : Char) (after : Option Char) : Bool :=
  isWhite x ||
  (x = ':' && (whiteOrEnd after || (flow && after.any fun y => ",[]\x7b\x7d".contains y))) ||
  (flow && ",?[]\x7b\x7d".contains x)

def plainRun (flow : Bool) : List Char → List Char
  | [] => []
  | x :: rest => if stopsPlain flow x rest.head? then [] else x :: plainRun flow rest

/-- Blank lines and spaces after a line break in a plain scalar, up to a document marker. -/
def plainBreaks (fuel : Nat) (done : List Char) (c : Cursor) : Option (List Char) × Cursor :=
  match fuel, c.peek with
  | fuel + 1, some x =>
    if x = ' ' then plainBreaks fuel done c.next
    else if isBreak x then
      let (lineEnd, c) := c.lineBreak
      if c.seesAnyMarker then (none, c) else plainBreaks fuel (done ++ lineEnd) c
    else (some done, c)
  | _, _ => (some done, c)

/-- The white space after a run of a plain scalar, as it would read inside the scalar. -/
structure PlainGap where
  text : List Char
  crossedLine : Bool
  after : Cursor

def plainGap (c : Cursor) : PlainGap :=
  let (blanks, c) := c.takeWhile (· = ' ')
  match c.peek with
  | some x =>
    if isBreak x then
      let (lineEnd, c) := c.lineBreak
      if c.seesAnyMarker then ⟨[], true, c⟩
      else match plainBreaks c.left [] c with
        | (none, c) => ⟨[], true, c⟩
        | (some breaks, c) =>
          let first := if lineEnd ≠ ['\n'] then lineEnd else if breaks.isEmpty then [' '] else []
          ⟨first ++ breaks, true, c⟩
    else ⟨blanks, false, c⟩
  | none => ⟨blanks, false, c⟩

/-- A plain scalar with the place after it and the white space behind it. -/
structure Plain where
  text : List Char
  /-- A line break follows the last run. -/
  crossedLine : Bool
  after : Cursor

/-- Reads a plain scalar whose further lines must be indented by at least `indent`. -/
def readPlain (flow : Bool) (indent : Int) (fuel : Nat) (done : Plain) (gap : List Char) : Plain :=
  match fuel with
  | 0 => done
  | fuel + 1 =>
    let c := done.after
    let run := if c.sees '#' then [] else plainRun flow c.rest
    if run.isEmpty then done
    else
      let found := plainGap (c.skip run.length)
      let read : Plain := ⟨done.text ++ gap ++ run, found.crossedLine, found.after⟩
      if found.text.isEmpty || found.after.sees '#' || (!flow && found.after.column < indent) then
        read
      else readPlain flow indent fuel read found.text

/-! ### Block scalars -/

/-- What becomes of the line breaks at the end of a block scalar. -/
inductive Chomping where
  | strip
  | clip
  | keep
  deriving DecidableEq, Repr

structure BlockHeader where
  chomping : Chomping := .clip
  increment : Option Nat := none
  deriving DecidableEq, Repr

def Chomping.ofSign? : Char → Option Chomping
  | '+' => some .keep
  | '-' => some .strip
  | _ => none

/-- The sign and the digit of a block scalar's header, in either order. -/
def readHeader (c : Cursor) : Except Fault (BlockHeader × Cursor) := do
  let sign (c : Cursor) : Option (Chomping × Cursor) :=
    (c.peek.bind Chomping.ofSign?).map (·, c.next)
  let digit (c : Cursor) : Except Fault (Option Nat × Cursor) :=
    match c.peek with
    | some x =>
      if x = '0' then .error .malformed
      else if x.isDigit then .ok (some (x.toNat - '0'.toNat), c.next)
      else .ok (none, c)
    | none => .ok (none, c)
  let (header, c) ← match sign c with
    | some (chomping, c) => do
      let (increment, c) ← digit c
      pure ((⟨chomping, increment⟩ : BlockHeader), c)
    | none => do
      let (increment, c) ← digit c
      match increment, sign c with
      | some _, some (chomping, c) => pure (⟨chomping, increment⟩, c)
      | _, _ => pure (⟨.clip, increment⟩, c)
  if spaceOrEnd c.peek then return (header, c) else throw .malformed

/-- The rest of a line that may hold spaces and a comment, with its line break. -/
def restOfLine (c : Cursor) : Except Fault Cursor :=
  let c := c.skipSpaces.skipComment
  if breakOrEnd c.peek then .ok c.lineBreak.2 else .error .malformed

/-- Blank lines before the first line of a block scalar, the widest column reached on them, and
the place after them. -/
def leadingBreaks (fuel : Nat) (done : List Char) (widest : Nat) (c : Cursor) :
    List Char × Nat × Cursor :=
  match fuel, c.peek with
  | fuel + 1, some x =>
    if x = ' ' then leadingBreaks fuel done (max widest c.next.column) c.next
    else if isBreak x then
      let (lineEnd, c) := c.lineBreak
      leadingBreaks fuel (done ++ lineEnd) widest c
    else (done, widest, c)
  | _, _ => (done, widest, c)

def skipIndent (fuel : Nat) (indent : Nat) (c : Cursor) : Cursor :=
  match fuel with
  | 0 => c
  | fuel + 1 =>
    if c.column < indent && c.sees ' ' then skipIndent fuel indent c.next else c

def blockBreaks (indent : Nat) (fuel : Nat) (done : List Char) (c : Cursor) :
    List Char × Cursor :=
  let c := skipIndent indent indent c
  match fuel, c.lineBreak with
  | 0, _ | _, ([], _) => (done, c)
  | fuel + 1, (lineEnd, after) => blockBreaks indent fuel (done ++ lineEnd) after

/-- The lines of a block scalar from one at its indentation. The result is the text up to the last
line's end, that line's break, the breaks after it, and the place where the scalar ends. -/
def blockLines (folded : Bool) (indent : Nat) (fuel : Nat) (done breaks : List Char)
    (c : Cursor) : List Char × List Char × List Char × Cursor :=
  match fuel with
  | 0 => (done, [], [], c)
  | fuel + 1 =>
    let flush := !(c.sees ' ' || c.sees '\t')
    let (line, c) := c.takeWhile (!isBreak ·)
    let done := done ++ breaks ++ line
    let (lineEnd, c) := c.lineBreak
    let (breaks, c) := blockBreaks indent c.left [] c
    if c.column = indent && c.peek.isSome then
      let folds := folded && lineEnd = ['\n'] && flush && !(c.sees ' ' || c.sees '\t')
      let joint := if folds then (if breaks.isEmpty then [' '] else []) else lineEnd
      blockLines folded indent fuel (done ++ joint) breaks c
    else (done, lineEnd, breaks, c)

/-- A block scalar from its indicator on, inside a block of indentation `outer`. -/
def readBlock (folded : Bool) (outer : Int) (c : Cursor) : Read := do
  let (header, c) ← readHeader c.next
  let c ← restOfLine c
  let least := (max (outer + 1) 1).toNat
  let (breaks, indent, c) := match header.increment with
    | none =>
      let (breaks, widest, c) := leadingBreaks c.left [] 0 c
      (breaks, max least widest, c)
    | some n =>
      let indent := least + n - 1
      let (breaks, c) := blockBreaks indent c.left [] c
      (breaks, indent, c)
  let (text, lineEnd, breaks, c) :=
    if c.column = indent && c.peek.isSome then
      blockLines folded indent (c.left + 1) [] breaks c
    else ([], [], breaks, c)
  return (text ++ (if header.chomping = .strip then [] else lineEnd) ++
    (if header.chomping = .keep then breaks else []), c)

end LineBudget.Yaml
