import LineBudget.Yaml.Scalar
import LineBudget.Text.Utf8

/-! The tokens of a YAML document. Block structure is made explicit from indentation, and keys that
only the colon after them shows are marked where they begin. -/
namespace LineBudget.Yaml

/-- A tag as written: verbatim, or a handle and the text after it. -/
structure TagMark where
  handle : Option String
  suffix : String
  deriving DecidableEq, Repr

inductive Directive where
  | version (major minor : Nat)
  | tag (handle stem : String)
  | other
  deriving DecidableEq, Repr

inductive Token where
  | directive (directive : Directive)
  | documentStart
  | documentEnd
  | streamEnd
  | sequenceStart
  | mappingStart
  | blockEnd
  | flowSequenceStart
  | flowSequenceEnd
  | flowMappingStart
  | flowMappingEnd
  | entry
  | flowEntry
  | key
  | value
  | alias (name : String)
  | anchor (name : String)
  | tag (mark : TagMark)
  | scalar (plain : Bool) (text : String)
  deriving DecidableEq, Repr

/-- A place where a key may have begun that only a colon would show. -/
structure PossibleKey where
  /-- The number of tokens before it. -/
  place : Nat
  /-- It stands where the block only allows keys. -/
  required : Bool
  index : Nat
  line : Nat
  column : Nat
  deriving Repr

/-- The tokens so far, the place reached, and what the next token depends on. -/
structure Lexer where
  cursor : Cursor
  tokens : Array Token := #[]
  flowLevel : Nat := 0
  indent : Int := -1
  indents : List Int := []
  keyAllowed : Bool := true
  /-- At most one key for each flow level. -/
  possible : List (Nat × PossibleKey) := []

abbrev Lexed := Except Fault Lexer

namespace Lexer

def inFlow (s : Lexer) : Bool := s.flowLevel ≠ 0

def emit (s : Lexer) (t : Token) : Lexer := { s with tokens := s.tokens.push t }

def column (s : Lexer) : Int := s.cursor.column

def dropKey (s : Lexer) : Lexed :=
  match s.possible.lookup s.flowLevel with
  | some key =>
    if key.required then .error .malformed
    else .ok { s with possible := s.possible.filter (·.1 ≠ s.flowLevel) }
  | none => .ok s

/-- Gives up the keys that began on an earlier line or too far back. -/
def dropStaleKeys (s : Lexer) : Lexed :=
  let stale (key : PossibleKey) : Bool :=
    key.line ≠ s.cursor.line || s.cursor.index - key.index > 1024
  if s.possible.any fun (_, key) => stale key && key.required then .error .malformed
  else .ok { s with possible := s.possible.filter fun (_, key) => !stale key }

def saveKey (s : Lexer) : Lexed :=
  if s.keyAllowed then do
    let key : PossibleKey := {
      place := s.tokens.size
      required := !s.inFlow && s.indent = s.column
      index := s.cursor.index
      line := s.cursor.line
      column := s.cursor.column }
    let s ← s.dropKey
    return { s with possible := (s.flowLevel, key) :: s.possible }
  else .ok s

/-- Closes the blocks that are indented deeper than a column. -/
def unwind (s : Lexer) (column : Int) : Lexer :=
  if s.inFlow then s
  else go s.indents s
where
  go : List Int → Lexer → Lexer
    | [], s => s
    | outer :: rest, s =>
      if column < s.indent then go rest { s.emit .blockEnd with indent := outer, indents := rest }
      else s

def openBlock (s : Lexer) (column : Int) (start : Token) : Lexer :=
  if s.indent < column then
    { s.emit start with indent := column, indents := s.indent :: s.indents }
  else s

def forward (s : Lexer) (n : Nat) : Lexer := { s with cursor := s.cursor.skip n }

/-- Spaces, comments and line breaks up to the next token. A line break outside of brackets lets a
key begin. -/
def skipToToken (fuel : Nat) (s : Lexer) : Lexer :=
  let c := if s.cursor.index = 0 && s.cursor.sees '\uFEFF' then s.cursor.next else s.cursor
  let c := c.skipSpaces.skipComment
  match fuel, c.lineBreak with
  | 0, _ | _, ([], _) => { s with cursor := c }
  | fuel + 1, (_, after) =>
    skipToToken fuel { s with cursor := after, keyAllowed := s.keyAllowed || !s.inFlow }

/-! ### Directives, tags and names -/

def readNumber (c : Cursor) : Except Fault (Nat × Cursor) :=
  let (digits, c) := c.takeWhile Char.isDigit
  match digits, Number.digitsValue? 10 digits with
  | _ :: _, some n => .ok (n, c)
  | _, _ => .error .malformed

/-- A tag handle: an exclamation mark, perhaps with a name and another one behind it. -/
def readHandle (c : Cursor) : Except Fault (String × Cursor) :=
  if !c.sees '!' then .error .malformed
  else if c.peekAt 1 = some ' ' then .ok ("!", c.next)
  else
    let (name, after) := c.next.takeWhile isNameChar
    if after.sees '!' then .ok (String.ofList ('!' :: name ++ ['!']), after.next)
    else .error .malformed

def isUriChar (c : Char) : Bool := c.isAlphanum || "-;/?:@&=+$,_.!~*'()[]".contains c

/-- The octets of escapes that follow one another. -/
def readUriOctets : List Char → Except Fault (List UInt8 × Nat)
  | '%' :: a :: b :: rest =>
    match Number.digitsValue? 16 [a, b] with
    | some n => do
      let (octets, width) ← readUriOctets rest
      return (UInt8.ofNat n :: octets, width + 3)
    | none => .error .malformed
  | '%' :: _ => .error .malformed
  | _ => .ok ([], 0)

/-- Part of a tag; escaped octets must be UTF-8. -/
def readUri (fuel : Nat) (done : List Char) (c : Cursor) : Except Fault (String × Cursor) :=
  match fuel, c.peek with
  | fuel + 1, some x =>
    if x = '%' then
      match readUriOctets c.rest with
      | .error e => .error e
      | .ok (octets, width) =>
        match Text.Utf8.decode octets with
        | .ok chars => readUri fuel (done ++ chars) (c.skip width)
        | .error _ => .error .malformed
    else if isUriChar x then readUri fuel (done ++ [x]) c.next
    else finish
  | _, _ => finish
where
  finish : Except Fault (String × Cursor) :=
    if done.isEmpty then .error .malformed else .ok (String.ofList done, c)

def readUriAt (c : Cursor) : Except Fault (String × Cursor) := readUri (c.left + 1) [] c

def readTag (c : Cursor) : Except Fault (TagMark × Cursor) := do
  let (mark, c) ←
    if c.peekAt 1 = some '<' then do
      let (uri, c) ← readUriAt (c.skip 2)
      if c.sees '>' then pure ((⟨none, uri⟩ : TagMark), c.next) else throw .malformed
    else if whiteOrEnd (c.peekAt 1) then pure (⟨none, "!"⟩, c.next)
    else do
      let word := c.next.rest.takeWhile fun x => x ≠ ' ' && !isBreak x
      let (handle, c) ← if word.contains '!' then readHandle c else pure ("!", c.next)
      let (suffix, c) ← readUriAt c
      pure (⟨some handle, suffix⟩, c)
  if spaceOrEnd c.peek then return (mark, c) else throw .malformed

/-- A directive from its percent sign on, with the rest of its line. -/
def readDirective (c : Cursor) : Except Fault (Directive × Cursor) := do
  let (name, c) := c.next.takeWhile isNameChar
  if name.isEmpty || !spaceOrEnd c.peek then throw .malformed
  let (directive, c) ←
    if name = "YAML".toList then do
      let (major, c) ← readNumber c.skipSpaces
      if !c.sees '.' then throw .malformed
      let (minor, c) ← readNumber c.next
      if !spaceOrEnd c.peek then throw .malformed
      pure (Directive.version major minor, c)
    else if name = "TAG".toList then do
      let (handle, c) ← readHandle c.skipSpaces
      if !c.sees ' ' then throw .malformed
      let (stem, c) ← readUriAt c.skipSpaces
      if !spaceOrEnd c.peek then throw .malformed
      pure (Directive.tag handle stem, c)
    else pure (Directive.other, c.skipWhile (!isBreak ·))
  let c ← restOfLine c
  return (directive, c)

def readName (c : Cursor) : Except Fault (String × Cursor) :=
  let (name, c) := c.takeWhile isNameChar
  let ends := whiteOrEnd c.peek || c.peek.any fun x => "?:,]\x7d%@`".contains x
  if name.isEmpty || !ends then .error .malformed else .ok (String.ofList name, c)

/-! ### Tokens -/

def leaveBlocks (s : Lexer) : Lexed :=
  ((s.unwind (-1)).dropKey).map fun s => { s with keyAllowed := false }

def fetchDirective (s : Lexer) : Lexed := do
  let s ← s.leaveBlocks
  let (directive, cursor) ← readDirective s.cursor
  return { s.emit (.directive directive) with cursor }

def fetchMarker (s : Lexer) (t : Token) : Lexed := do
  let s ← s.leaveBlocks
  return (s.forward 3).emit t

def fetchFlowStart (s : Lexer) (t : Token) : Lexed := do
  let s ← s.saveKey
  return { (s.forward 1).emit t with flowLevel := s.flowLevel + 1, keyAllowed := true }

def fetchFlowEnd (s : Lexer) (t : Token) : Lexed := do
  let s ← s.dropKey
  return { (s.forward 1).emit t with flowLevel := s.flowLevel - 1, keyAllowed := false }

def fetchFlowEntry (s : Lexer) : Lexed := do
  let s ← s.dropKey
  return { (s.forward 1).emit .flowEntry with keyAllowed := true }

def fetchEntry (s : Lexer) : Lexed := do
  if !s.inFlow && !s.keyAllowed then throw .malformed
  let s := if s.inFlow then s else s.openBlock s.column .sequenceStart
  let s ← s.dropKey
  return { (s.forward 1).emit .entry with keyAllowed := true }

def fetchKey (s : Lexer) : Lexed := do
  if !s.inFlow && !s.keyAllowed then throw .malformed
  let s := if s.inFlow then s else s.openBlock s.column .mappingStart
  let s ← s.dropKey
  return { (s.forward 1).emit .key with keyAllowed := !s.inFlow }

/-- A colon. If a key may have begun before it, the key is marked there, and a block mapping is
opened at its column where it is the first. -/
def fetchValue (s : Lexer) : Lexed := do
  match s.possible.lookup s.flowLevel with
  | some key =>
    let opens := !s.inFlow && s.indent < key.column
    let marked := s.tokens.insertIdxIfInBounds key.place .key
    let s := { s with
      possible := s.possible.filter (·.1 ≠ s.flowLevel)
      tokens := if opens then marked.insertIdxIfInBounds key.place .mappingStart else marked
      indents := if opens then s.indent :: s.indents else s.indents
      indent := if opens then key.column else s.indent
      keyAllowed := false }
    return (s.forward 1).emit .value
  | none =>
    if !s.inFlow && !s.keyAllowed then throw .malformed
    let s := if s.inFlow then s else s.openBlock s.column .mappingStart
    let s := { s with keyAllowed := !s.inFlow }
    let s ← s.dropKey
    return (s.forward 1).emit .value

def fetchName (s : Lexer) (t : String → Token) : Lexed := do
  let s ← s.saveKey
  let (name, cursor) ← readName s.cursor.next
  return { s.emit (t name) with cursor, keyAllowed := false }

def fetchTag (s : Lexer) : Lexed := do
  let s ← s.saveKey
  let (mark, cursor) ← readTag s.cursor
  return { s.emit (.tag mark) with cursor, keyAllowed := false }

def fetchBlockScalar (s : Lexer) (folded : Bool) : Lexed := do
  let s ← s.dropKey
  let (text, cursor) ← readBlock folded s.indent s.cursor
  return { s.emit (.scalar false (String.ofList text)) with cursor, keyAllowed := true }

def fetchQuoted (s : Lexer) (double : Bool) : Lexed := do
  let s ← s.saveKey
  let (text, cursor) ← readQuoted double (s.cursor.left + 1) [] s.cursor.next
  return { s.emit (.scalar false (String.ofList text)) with cursor, keyAllowed := false }

def fetchPlain (s : Lexer) : Lexed := do
  let s ← s.saveKey
  let read := readPlain s.inFlow (s.indent + 1) (s.cursor.left + 1)
    ⟨[], false, s.cursor⟩ []
  return { s.emit (.scalar true (String.ofList read.text)) with
    cursor := read.after, keyAllowed := read.crossedLine }

def startsPlain (s : Lexer) (x : Char) : Bool :=
  (!isWhite x && !"-?:,[]\x7b\x7d#&*!|>'\"%@`".contains x) ||
  (!whiteOrEnd (s.cursor.peekAt 1) && (x = '-' || (!s.inFlow && (x = '?' || x = ':'))))

/-- The next token, at a character. A closing bracket without an open one ends the document. -/
def fetch (s : Lexer) (x : Char) : Lexed :=
  let atStart := s.cursor.column = 0
  let gap := whiteOrEnd (s.cursor.peekAt 1)
  if x = '%' && atStart then s.fetchDirective
  else if atStart && s.cursor.seesMarker '-' then s.fetchMarker .documentStart
  else if atStart && s.cursor.seesMarker '.' then s.fetchMarker .documentEnd
  else if x = '[' then s.fetchFlowStart .flowSequenceStart
  else if x = '\x7b' then s.fetchFlowStart .flowMappingStart
  else if x = ']' || x = '\x7d' then
    if s.inFlow then s.fetchFlowEnd (if x = ']' then .flowSequenceEnd else .flowMappingEnd)
    else .error .malformed
  else if x = ',' then s.fetchFlowEntry
  else if x = '-' && gap then s.fetchEntry
  else if x = '?' && (s.inFlow || gap) then s.fetchKey
  else if x = ':' && (s.inFlow || gap) then s.fetchValue
  else if x = '*' then s.fetchName .alias
  else if x = '&' then s.fetchName .anchor
  else if x = '!' then s.fetchTag
  else if x = '|' && !s.inFlow then s.fetchBlockScalar false
  else if x = '>' && !s.inFlow then s.fetchBlockScalar true
  else if x = '\'' then s.fetchQuoted false
  else if x = '"' then s.fetchQuoted true
  else if s.startsPlain x then s.fetchPlain
  else .error .malformed

/-- All tokens up to the end of the text, or those before the first fault. -/
def run (fuel : Nat) (s : Lexer) : List Token × Option Fault :=
  match fuel with
  | 0 => (s.tokens.toList, some .malformed)
  | fuel + 1 =>
    let s := s.skipToToken (s.cursor.left + 1)
    match s.dropStaleKeys with
    | .error e => (s.tokens.toList, some e)
    | .ok s =>
      let s := s.unwind s.column
      match s.cursor.peek with
      | none =>
        match (s.unwind (-1)).dropKey with
        | .error e => (s.tokens.toList, some e)
        | .ok s => ((s.emit .streamEnd).tokens.toList, none)
      | some x =>
        match s.fetch x with
        | .error e => (s.tokens.toList, some e)
        | .ok s => run fuel s

end Lexer

/-- The tokens of a text, and the fault that ends them early if there is one. -/
def Token.ofText (text : List Char) : List Token × Option Fault :=
  if text.all isAllowed then Lexer.run (2 * text.length + 4) { cursor := .start text }
  else ([], some .malformed)

end LineBudget.Yaml
