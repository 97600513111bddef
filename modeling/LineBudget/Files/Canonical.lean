import LineBudget.Files.Tree

/-! The canonical form of a path: absolute, without double dots and without links, as far as the
tree has what the path names. What is missing stays in the path as it was written. -/
namespace LineBudget.Files

/-- A place on the way. A relative path starts at the current directory and is counted from there,
as long as it meets no link to an absolute path. -/
structure Stand where
  /-- Directories up from the current one; nothing for a place that is counted from the root. -/
  up : Option Nat
  names : List String := []
  deriving DecidableEq, Repr

namespace Stand

def location (current : List String) (s : Stand) : List String :=
  match s.up with
  | none => s.names
  | some n => current.take (current.length - n) ++ s.names

/-- The place as a path, which need not begin at the root. -/
def path (s : Stand) : Path :=
  match s.up with
  | none => ⟨1, s.names⟩
  | some n => ⟨0, List.replicate n ".." ++ s.names⟩

def below (s : Stand) (name : String) : Stand := { s with names := s.names ++ [name] }

/-- One directory up. Nothing is above the root. -/
def above (s : Stand) : Stand :=
  match s with
  | ⟨some n, []⟩ => ⟨some (n + 1), []⟩
  | ⟨up, names⟩ => ⟨up, names.dropLast⟩

end Stand

inductive Step where
  | name (name : String)
  /-- The target of this link has been worked off. -/
  | resolved (link : Stand)
  deriving DecidableEq, Repr

def Step.names (steps : List Step) : List String :=
  steps.filterMap fun | .name part => some part | .resolved _ => none

/-- Removes double dots together with the name before them. -/
def collapse (names : List String) : List String :=
  (names.foldl (fun done name => if name = ".." then done.tail else name :: done) []).reverse

/-- The target of the link that stands at a path itself, as far as the path can be looked up. -/
def Disk.linkAt? (d : Disk) (p : Path) : Option String :=
  match d.place p false with
  | .ok (.taken names) => match d.root.find? names with
    | some (.link target) => some target
    | _ => none
  | _ => none

/-- What is known of a link on the way: nothing for one that is being worked off. -/
abbrev Seen := List (Stand × Option Stand)

/-- Works off the steps from `here`. A link met again while its target is being worked off leads
nowhere: it stays in the path with everything after it. -/
def canonicalFrom (d : Disk) (fuel : Nat) (seen : Seen) (here : Stand) (steps : List Step) :
    List String :=
  match fuel, steps with
  | _, [] => here.location d.current
  | 0, steps => collapse (here.location d.current ++ Step.names steps)
  | fuel + 1, .resolved link :: rest => canonicalFrom d fuel ((link, some here) :: seen) here rest
  | fuel + 1, .name name :: rest =>
    if name = ".." then canonicalFrom d fuel seen here.above rest
    else
      let next := here.below name
      match d.linkAt? next.path with
      | some target =>
        match seen.lookup next with
        | some (some known) => canonicalFrom d fuel seen known rest
        | some none => collapse (next.location d.current ++ Step.names rest)
        | none =>
          canonicalFrom d fuel ((next, none) :: seen)
            (if target.startsWith "/" then ⟨none, []⟩ else here)
            ((Path.partsOf target).map .name ++ .resolved next :: rest)
      | none => canonicalFrom d fuel seen next rest

mutual

/-- Steps that all links of a tree can add, each link once. -/
def Node.linkSize : Node → Nat
  | .file _ _ => 0
  | .link target => (Path.partsOf target).length + 2
  | .directory entries _ => entriesLinkSize entries

def entriesLinkSize : List (String × Node) → Nat
  | [] => 0
  | (_, node) :: rest => node.linkSize + entriesLinkSize rest

end

/-- Enough steps for a path: each link is worked off once for each way of counting its place, and
places are looked up as far as their paths are not too long. -/
def canonicalFuel (d : Disk) (p : Path) : Nat :=
  (p.parts.length + d.root.linkSize + 1) * (d.current.length + p.parts.length + pathLimit)

def Disk.canonical (d : Disk) (p : Path) : List String :=
  canonicalFrom d (canonicalFuel d p) [] ⟨if p.isAbsolute then none else some 0, []⟩
    (p.parts.map .name)

end LineBudget.Files
