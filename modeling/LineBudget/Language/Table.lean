import LineBudget.Language.Known

/-! The table from file extensions to grammars, and the grammar of a path. -/
namespace LineBudget.Language

/-- One extension claimed by two grammars, in the order in which they were given. -/
structure Conflict where
  extension : String
  first : Grammar
  second : Grammar
  deriving DecidableEq, Repr

def Conflict.message (c : Conflict) : String :=
  s!"Extension {c.extension} is mapped to both {c.first.name} and {c.second.name}"

/-- Extensions with their grammars, each extension once. -/
structure Table where
  entries : List (String × Grammar) := []
  deriving DecidableEq, Repr

def Table.lookup (t : Table) (extension : String) : Option Grammar := t.entries.lookup extension

/-- Adds one extension unless the table has it already. -/
def Table.insert (t : Table) (g : Grammar) (extension : String) : Except Conflict Table :=
  match t.lookup extension with
  | some first => .error ⟨extension, first, g⟩
  | none => .ok ⟨t.entries ++ [(extension, g)]⟩

/-- Adds all extensions of a grammar. They form a set, so a repeated one counts once. -/
def Table.insertGrammar (t : Table) (g : Grammar) : Except Conflict Table :=
  g.extensions.eraseDups.foldlM (fun t extension => t.insert g extension) t

/-- The table of some grammars; two grammars must not share an extension. -/
def Table.ofGrammars (grammars : List Grammar) : Except Conflict Table :=
  grammars.foldlM Table.insertGrammar {}

def table : Table := (Table.ofGrammars known).toOption.getD {}

def baseName (path : List Char) : List Char :=
  (path.reverse.takeWhile (· != '/')).reverse

/-- The part of the base name from its last dot on, empty where it has none. A name that begins
with its only dot is all extension. -/
def extensionOf (path : List Char) : List Char :=
  let name := (baseName path).reverse
  if name.contains '.' then (name.takeWhile (· != '.')).reverse.cons '.' else []

def lookup (extension : String) : Option Grammar := table.lookup extension

/-- The grammar of a file, known from its extension alone. -/
def detect (path : String) : Option Grammar := lookup (String.ofList (extensionOf path.toList))

end LineBudget.Language
