import LineBudget.Files.Tree

/-! The walk through a directory: depth first, and in the order of the names. A link is an entry
like a file, wherever it leads. -/
namespace LineBudget.Scan
open LineBudget.Files

/-- What the walk comes by, each with its names below the start. -/
inductive Visit where
  | kept (names : List String)
  /-- A directory that is left out with all that is in it. -/
  | skipped (names : List String)
  /-- A directory that cannot be listed, and why. The walk ends there. -/
  | unlistable (names : List String) (reason : Reason)
  deriving DecidableEq, Repr

/-- Whether a path is left out; the second argument tells whether it is a directory. -/
abbrev Exclusion := List String → Bool → Bool

/-- Why a directory cannot be listed, if it cannot. -/
abbrev Barrier := List String → Option Reason

/-- The visits of the entries of a directory, in the order of their names. -/
def inOrder (visits : List (String × List Visit)) : List Visit :=
  (visits.mergeSort fun a b => a.1 ≤ b.1).flatMap (·.2)

mutual

/-- The visits below a node that stands at `here`. The node itself is not tested. -/
def visits (barred : Barrier) (excludes : Exclusion) (here : List String) : Node → List Visit
  | .directory entries _ => match barred here with
    | none => inOrder (entryVisits barred excludes here entries)
    | some reason => [.unlistable here reason]
  | .file _ _ | .link _ => []

def entryVisits (barred : Barrier) (excludes : Exclusion) (here : List String) :
    List (String × Node) → List (String × List Visit)
  | [] => []
  | (name, node) :: rest =>
    let names := here ++ [name]
    let found :=
      if excludes names node.isDirectory then (if node.isDirectory then [.skipped names] else [])
      else if node.isDirectory then visits barred excludes names node
      else [.kept names]
    (name, found) :: entryVisits barred excludes here rest

end

/-- The visits before the walk ends early, and the directory where it does, with the reason. -/
def upToFailure (visits : List Visit) : List Visit × Option (List String × Reason) :=
  (visits.takeWhile fun | .unlistable _ _ => false | _ => true,
    visits.findSome? fun | .unlistable names reason => some (names, reason) | _ => none)

/-- Names as a path; no names are the start itself. -/
def relative (names : List String) : String :=
  if names.isEmpty then "." else "/".intercalate names

/-- A file to be checked, by its names below the target. -/
structure Entry where
  names : List String
  deriving DecidableEq, Repr

def Entry.path (e : Entry) : String := "/".intercalate e.names

def Entry.directory (e : Entry) : String := relative e.names.dropLast

structure Listing where
  files : List Entry := []
  deriving DecidableEq, Repr

/-- The directories of the files, each at its first file. -/
def Listing.directories (l : Listing) : List String := (l.files.map Entry.directory).eraseDups

def Listing.ofVisits (visits : List Visit) : Listing :=
  ⟨visits.filterMap fun | .kept names => some ⟨names⟩ | _ => none⟩

def skipNotes (visits : List Visit) : List String :=
  visits.filterMap fun
    | .skipped names => some s!"Skipping directory {relative names}"
    | _ => none

end LineBudget.Scan
