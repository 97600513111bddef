import LineBudget.Yaml.Node
import LineBudget.Yaml.Scalars

/-! The value of a YAML document. -/
namespace LineBudget.Yaml

/-- What a node offers to a mapping that merges it. -/
inductive Shape where
  | scalar
  | items (shapes : List Shape)
  | entries (entries : List (Value × Value))
  deriving Inhabited

/-- The value of a node together with its shape, which its tag does not change. -/
structure Built where
  value : Value
  shape : Shape
  deriving Inhabited

/-- The named nodes so far, the latest first. -/
abbrev Named := List (String × Built)

abbrev Build := StateT Named (Except Error)

def malformed {α : Type} : Build α := throw (.fault .malformed)

def Named.find? (named : Named) (anchor : Option String) : Option Built :=
  anchor.bind fun a => List.lookup a named

def name (anchor : Option String) (built : Built) : Build Unit :=
  match anchor with
  | some a => modify fun named => (a, built) :: named
  | none => return ()

/-- The entries that a merged node gives: those of a mapping, or those of the mappings of a
sequence, of which earlier ones win. -/
def mergedEntries : Shape → Option (List (Value × Value))
  | .entries entries => some entries
  | .items shapes => do
    let parts ← shapes.mapM fun
      | Shape.entries entries => some entries
      | _ => none
    some parts.reverse.flatten
  | .scalar => none

def sequenceValue (tag : Tag) (items : List Built) : Except Error Value :=
  match tag with
  | .seq => .ok (.list (items.map (·.value)))
  | .omap | .pairs =>
    match items.mapM fun item => match item.shape with
      | .entries [(key, value)] => some (Value.pair key value)
      | _ => none with
    | some pairs => .ok (.list pairs)
    | none => .error (.fault .malformed)
  | _ => .error (.fault .malformed)

/-- The text under the key `=`, which lets a mapping stand for a scalar. -/
def defaultText? (pairs : List (Node × Node)) : Option String :=
  pairs.findSome? fun
    | (.scalar _ .value _, .scalar _ _ text) => some text
    | _ => none

def mappingValue (tag : Tag) (pairs : List (Node × Node)) (entries : List (Value × Value)) :
    Except Error Value :=
  match tag with
  | .map => .ok (.map entries)
  | .set => .ok (.set (entries.map (·.1)))
  | _ => match defaultText? pairs with
    | some text => scalarValue tag text
    | none => .error (.fault .malformed)

mutual

/-- Builds a node. Inside a named collection an alias for it stands for what `outer` has under
the name, or else for an empty collection. -/
def build (outer : Named) : Node → Build Built
  | .scalar anchor tag text => do
    let built : Built := ⟨← scalarValue tag text, .scalar⟩
    name anchor built
    return built
  | .sequence anchor tag items => do
    name anchor ((outer.find? anchor).getD ⟨.list [], .items []⟩)
    let parts ← buildItems outer items
    let built : Built := ⟨← sequenceValue tag parts, .items (parts.map (·.shape))⟩
    name anchor built
    return built
  | .mapping anchor tag pairs => do
    name anchor ((outer.find? anchor).getD ⟨.map [], .entries []⟩)
    let (merged, own) ← buildPairs outer pairs
    let entries := merged ++ own
    let built : Built := ⟨← mappingValue tag pairs entries, .entries entries⟩
    name anchor built
    return built
  | .alias target => do
    match (← get).find? target with
    | some built => return built
    | none => malformed

def buildItems (outer : Named) : List Node → Build (List Built)
  | [] => return []
  | item :: rest => do
    let first ← build outer item
    return first :: (← buildItems outer rest)

/-- The entries that a mapping merges and those of its own, which win over merged ones. -/
def buildPairs (outer : Named) :
    List (Node × Node) → Build (List (Value × Value) × List (Value × Value))
  | [] => return ([], [])
  | (.scalar _ .merge _, source) :: rest => do
    let built ← build outer source
    match mergedEntries built.shape with
    | none => malformed
    | some entries => do
      let (merged, own) ← buildPairs outer rest
      return (entries ++ merged, own)
  | (.scalar anchor .value text, value) :: rest => do
    name anchor ⟨.text text, .scalar⟩
    let second ← build outer value
    let (merged, own) ← buildPairs outer rest
    return (merged, (.text text, second.value) :: own)
  | (key, value) :: rest => do
    let first ← build outer key
    if !first.value.canBeKey then malformed
    let second ← build outer value
    let (merged, own) ← buildPairs outer rest
    return (merged, (first.value, second.value) :: own)

end

/-- The value of a text that holds one document; an empty one has the null value. Where a collection
holds itself, it does so once. -/
def ofText (text : List Char) : Except Error Value := do
  match ← (Node.ofText? text).mapError .fault with
  | none => return .null
  | some node =>
    let (_, named) ← (build [] node).run []
    let (built, _) ← (build named node).run []
    return built.value

end LineBudget.Yaml
