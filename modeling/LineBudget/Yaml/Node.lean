import LineBudget.Yaml.Token
import LineBudget.Yaml.Tag
import LineBudget.Yaml.Moment

/-! The nodes of a YAML document: scalars, sequences and mappings with their tags, and aliases for
nodes that were named before. -/
namespace LineBudget.Yaml

inductive Node where
  | scalar (anchor : Option String) (tag : Tag) (text : String)
  | sequence (anchor : Option String) (tag : Tag) (items : List Node)
  | mapping (anchor : Option String) (tag : Tag) (pairs : List (Node × Node))
  | alias (name : String)
  deriving Inhabited, Repr

/-- The tag that a plain scalar has by its looks. -/
def Tag.ofPlain (text : String) : Tag :=
  let chars := text.toList
  if isBool text then .bool
  else if isFloat chars then .float
  else if isInt chars then .int
  else if text = "<<" then .merge
  else if isNull text then .null
  else if isTimestamp chars then .timestamp
  else if text = "=" then .value
  else .str

/-- The tokens still to be read, the fault that comes after them, and the names that are known. -/
structure Pending where
  tokens : List Token
  fault : Option Fault
  anchors : List String := []
  handles : List (String × String) := []

abbrev Parse := StateT Pending (Except Fault)

namespace Parse

def fail {α : Type} : Parse α := throw .malformed

def peek : Parse Token := do
  let pending ← get
  match pending.tokens with
  | t :: _ => return t
  | [] => throw (pending.fault.getD .malformed)

def drop : Parse Unit := modify fun p => { p with tokens := p.tokens.tail }

def accept (t : Token) : Parse Bool := do
  if (← peek) = t then
    drop
    return true
  else return false

def sees (ts : List Token) : Parse Bool := return ts.contains (← peek)

/-- The scalar that stands where nothing is written. -/
def empty : Node := .scalar none .null ""

def resolve (mark : TagMark) : Parse String :=
  match mark.handle with
  | none => return mark.suffix
  | some handle => do
    match (← get).handles.lookup handle with
    | some stem => return stem ++ mark.suffix
    | none => fail

def takeAnchor : Parse (Option String) := do
  match ← peek with
  | .anchor name => do
    drop
    return some name
  | _ => return none

def takeTag : Parse (Option TagMark) := do
  match ← peek with
  | .tag mark => do
    drop
    return some mark
  | _ => return none

/-- An anchor and a tag in either order. A name can be given only once. -/
def properties : Parse (Option String × Option String) := do
  let early ← takeAnchor
  let mark ← takeTag
  let anchor ← match early, mark with
    | none, some _ => takeAnchor
    | _, _ => pure early
  let tag ← match mark with
    | some mark => do pure (some (← resolve mark))
    | none => pure none
  match anchor with
  | some name => do
    if (← get).anchors.contains name then fail
    modify fun p => { p with anchors := name :: p.anchors }
  | none => pure ()
  return (anchor, tag)

/-- The tag of a collection; a lone exclamation mark says nothing. -/
def collectionTag (tag : Option String) (default : Tag) : Tag :=
  match tag with
  | none => default
  | some uri => if uri = "!" then default else Tag.ofUri uri

def scalarTag (tag : Option String) (plain : Bool) (text : String) : Tag :=
  match tag with
  | none => if plain then Tag.ofPlain text else .str
  | some uri => if uri = "!" then Tag.ofPlain text else Tag.ofUri uri

mutual

/-- A node. Block collections count only where `block` is set, and entries without an indentation
of their own only where `indentless` is. -/
def node (fuel : Nat) (block indentless : Bool) : Parse Node :=
  match fuel with
  | 0 => fail
  | fuel + 1 => do
    match ← peek with
    | .alias name => do
      drop
      if (← get).anchors.contains name then return .alias name else fail
    | _ => do
      let (anchor, tag) ← properties
      match ← peek with
      | .scalar plain text => do
        drop
        return .scalar anchor (scalarTag tag plain text) text
      | .flowSequenceStart => do
        drop
        return .sequence anchor (collectionTag tag .seq) (← flowItems fuel true)
      | .flowMappingStart => do
        drop
        return .mapping anchor (collectionTag tag .map) (← flowPairs fuel true)
      | next => do
        if indentless && next = .entry then
          return .sequence anchor (collectionTag tag .seq) (← plainEntries fuel)
        else if block && next = .sequenceStart then do
          drop
          return .sequence anchor (collectionTag tag .seq) (← blockEntries fuel)
        else if block && next = .mappingStart then do
          drop
          return .mapping anchor (collectionTag tag .map) (← blockPairs fuel)
        else if anchor.isSome || tag.isSome then
          return .scalar anchor (scalarTag tag true "") ""
        else fail

/-- A node, or the empty scalar before one of these tokens. -/
def nodeUnless (fuel : Nat) (stops : List Token) (block indentless : Bool) : Parse Node :=
  match fuel with
  | 0 => fail
  | fuel + 1 => do
    if ← sees stops then return empty else node fuel block indentless

def blockEntries (fuel : Nat) : Parse (List Node) :=
  match fuel with
  | 0 => fail
  | fuel + 1 => do
    if ← accept .entry then do
      let item ← nodeUnless fuel [.entry, .blockEnd] true false
      return item :: (← blockEntries fuel)
    else if ← accept .blockEnd then return []
    else fail

/-- Entries at the indentation of the mapping they stand in. -/
def plainEntries (fuel : Nat) : Parse (List Node) :=
  match fuel with
  | 0 => fail
  | fuel + 1 => do
    if ← accept .entry then do
      let item ← nodeUnless fuel [.entry, .key, .value, .blockEnd] true false
      return item :: (← plainEntries fuel)
    else return []

def blockPairs (fuel : Nat) : Parse (List (Node × Node)) :=
  match fuel with
  | 0 => fail
  | fuel + 1 => do
    if ← accept .key then do
      let key ← nodeUnless fuel [.key, .value, .blockEnd] true true
      let value ← if ← accept .value then nodeUnless fuel [.key, .value, .blockEnd] true true
        else pure empty
      return (key, value) :: (← blockPairs fuel)
    else if ← accept .blockEnd then return []
    else fail

/-- A pair in a flow collection that ends with `close`, from after the sign of its key. -/
def flowPair (fuel : Nat) (close : Token) : Parse (Node × Node) :=
  match fuel with
  | 0 => fail
  | fuel + 1 => do
    let key ← nodeUnless fuel [.value, .flowEntry, close] false false
    let value ← if ← accept .value then nodeUnless fuel [.flowEntry, close] false false
      else pure empty
    return (key, value)

/-- Items up to the closing bracket. An item may be a single pair, which is a mapping. -/
def flowItems (fuel : Nat) (first : Bool) : Parse (List Node) :=
  match fuel with
  | 0 => fail
  | fuel + 1 => do
    if ← accept .flowSequenceEnd then return []
    else do
      if !first then
        if !(← accept .flowEntry) then fail
      if ← accept .flowSequenceEnd then return []
      else if ← accept .key then do
        let pair ← flowPair fuel .flowSequenceEnd
        return .mapping none .map [pair] :: (← flowItems fuel false)
      else do
        let item ← node fuel false false
        return item :: (← flowItems fuel false)

def flowPairs (fuel : Nat) (first : Bool) : Parse (List (Node × Node)) :=
  match fuel with
  | 0 => fail
  | fuel + 1 => do
    if ← accept .flowMappingEnd then return []
    else do
      if !first then
        if !(← accept .flowEntry) then fail
      if ← accept .flowMappingEnd then return []
      else if ← accept .key then do
        let pair ← flowPair fuel .flowMappingEnd
        return pair :: (← flowPairs fuel false)
      else do
        let key ← node fuel false false
        return (key, empty) :: (← flowPairs fuel false)

end

/-- The directives before a document. The version may be given once and must be 1; a handle may be
given once. -/
def directives (fuel : Nat) (version : Bool) : Parse Unit :=
  match fuel with
  | 0 => fail
  | fuel + 1 => do
    match ← peek with
    | .directive (.version major _) => do
      if version || major ≠ 1 then fail
      drop
      directives fuel true
    | .directive (.tag handle stem) => do
      if ((← get).handles.lookup handle).isSome then fail
      drop
      modify fun p => { p with handles := p.handles ++ [(handle, stem)] }
      directives fuel version
    | .directive .other => do
      drop
      directives fuel version
    | _ =>
      modify fun p => { p with handles := p.handles ++ [("!", "!"), ("!!", standardStem)] }

def skipDocumentEnds (fuel : Nat) : Parse Unit :=
  match fuel with
  | 0 => return ()
  | fuel + 1 => do
    if ← accept .documentEnd then skipDocumentEnds fuel else return ()

/-- The one document of a stream, or nothing if the stream is empty. -/
def document (fuel : Nat) : Parse (Option Node) := do
  let first ← peek
  if first = .streamEnd then return none
  let explicit := match first with
    | .directive _ | .documentStart => true
    | _ => false
  directives fuel false
  if explicit then
    if !(← accept .documentStart) then fail
  let root ← match explicit, ← peek with
    | true, .directive _ | true, .documentStart | true, .documentEnd | true, .streamEnd =>
      pure empty
    | _, _ => node fuel true false
  skipDocumentEnds fuel
  if (← peek) = .streamEnd then return some root else fail

end Parse

def Node.ofText? (text : List Char) : Except Fault (Option Node) :=
  let (tokens, fault) := Token.ofText text
  ((Parse.document (8 * tokens.length + 16)).run { tokens, fault }).map (·.1)

end LineBudget.Yaml
