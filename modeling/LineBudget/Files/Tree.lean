import LineBudget.Files.Path
import LineBudget.Files.Refusal

/-! Trees of files, directories and symbolic links, and what stands at a path. -/
namespace LineBudget.Files

/-- What a directory allows. -/
structure Access where
  /-- Its names can be listed. -/
  listable : Bool := true
  /-- What is in it can be reached. -/
  searchable : Bool := true
  deriving DecidableEq, Repr

/-- What has a name in a directory. A file that is not readable cannot be opened for reading, but
it can be replaced. -/
inductive Node where
  | file (content : List UInt8) (readable : Bool)
  | link (target : String)
  | directory (entries : List (String × Node)) (access : Access)
  deriving Inhabited

namespace Node

def entries : Node → List (String × Node)
  | .directory entries _ => entries
  | _ => []

def access : Node → Access
  | .directory _ access => access
  | _ => {}

def isDirectory : Node → Bool
  | .directory _ _ => true
  | _ => false

/-- The node under a list of names, no link followed. -/
def find? (node : Node) : List String → Option Node
  | [] => some node
  | name :: rest => (node.entries.lookup name).bind (find? · rest)

end Node

def setEntry (name : String) (node : Node) : List (String × Node) → List (String × Node)
  | [] => [(name, node)]
  | (other, old) :: rest =>
    if other = name then (name, node) :: rest else (other, old) :: setEntry name node rest

namespace Node

/-- Puts a node at a list of names, where directories are made as needed. -/
def insert (node new : Node) : List String → Node
  | [] => new
  | name :: rest =>
    let below := ((node.entries.lookup name).getD (.directory [] {})).insert new rest
    .directory (setEntry name below node.entries) node.access

end Node

/-- A tree from its root, and the directory in which relative paths start. -/
structure Disk where
  root : Node := .directory [] {}
  /-- Names from the root, none of them a link. -/
  current : List String := []
  deriving Inhabited

/-- Most octets of a name, and one more than the most of a path. -/
def nameLimit : Nat := 255
def pathLimit : Nat := 4096

def linkLimit : Nat := 40

/-- The steps that a link's target adds. A slash at its end adds an empty one. -/
def linkSteps (target : String) : List String :=
  ((Text.pieces '/' target.toList).map String.ofList).filter (· ≠ "") ++
    if target.endsWith "/" then [""] else []

/-- Where a look-up ends: at a node, or at a name that is free in a directory. -/
inductive Place where
  | taken (names : List String)
  | vacant (names : List String)
  deriving DecidableEq, Repr

/-- Walks from the directory at `here`, which holds no link, along names, dots and double dots,
and follows at most `links` links. A link at the very end is followed only on request. An empty
step asks for a directory, and all others for one that can be searched. -/
def follow (root : Node) (last : Bool) (links : Nat) (here : List String) :
    List String → Except Reason Place
  | [] => .ok (.taken here)
  | step :: rest =>
    match root.find? here with
    | some (.directory entries access) =>
      if step = "" then follow root last links here rest
      else if !access.searchable then .error .permissionDenied
      else if step = "." then follow root last links here rest
      else if step = ".." then follow root last links here.dropLast rest
      else if nameLimit < step.utf8ByteSize then .error .nameTooLong
      else match entries.lookup step with
        | none => if rest.isEmpty then .ok (.vacant (here ++ [step])) else .error .notFound
        | some (.link target) =>
          if rest.isEmpty && !last then .ok (.taken (here ++ [step]))
          else match links with
            | 0 => .error .tooManyLinks
            | links + 1 =>
              follow root last links (if target.startsWith "/" then [] else here)
                (linkSteps target ++ rest)
        | some _ => follow root last links (here ++ [step]) rest
    | _ => .error .notDirectory
termination_by steps => (links, steps.length)

namespace Disk

def start (d : Disk) (p : Path) : List String := if p.isAbsolute then [] else d.current

def place (d : Disk) (p : Path) (last : Bool) : Except Reason Place :=
  if pathLimit ≤ p.text.utf8ByteSize then .error .nameTooLong
  else follow d.root last linkLimit (d.start p) p.parts

def node (d : Disk) (p : Path) : Except Reason Node :=
  match d.place p true with
  | .error reason => .error reason
  | .ok (.vacant _) => .error .notFound
  | .ok (.taken names) => match d.root.find? names with
    | some node => .ok node
    | none => .error .notFound

end Disk

/-- Why a request on a path came to nothing. A path with a NUL is none. -/
inductive Failure where
  | refused (refusal : Refusal)
  | nulInPath
  deriving DecidableEq, Repr

namespace Disk

def hasNul (p : Path) : Bool := p.contains '\x00'

/-- Whether a path leads to a node of some sort. Where the look-up fails, the answer is no or the
failure itself. -/
def test (d : Disk) (p : Path) (sort : Node → Bool) : Except Failure Bool :=
  if hasNul p then .ok false
  else match d.node p with
    | .ok node => .ok (sort node)
    | .error reason =>
      if reason.answersNo then .ok false else .error (.refused ⟨reason, p.text⟩)

def isFile (d : Disk) (p : Path) : Except Failure Bool :=
  d.test p fun | .file _ _ => true | _ => false

def isDirectory (d : Disk) (p : Path) : Except Failure Bool := d.test p Node.isDirectory

def pathExists (d : Disk) (p : Path) : Except Failure Bool := d.test p fun _ => true

def read (d : Disk) (p : Path) : Except Failure (List UInt8) :=
  if hasNul p then .error .nulInPath
  else match d.node p with
    | .ok (.file content true) => .ok content
    | .ok (.file _ false) | .ok (.directory _ ⟨false, _⟩) =>
      .error (.refused ⟨.permissionDenied, p.text⟩)
    | .ok _ => .error (.refused ⟨.isDirectory, p.text⟩)
    | .error reason => .error (.refused ⟨reason, p.text⟩)

/-- Why the names in the directory at a path cannot be listed, if they cannot. -/
def listingRefused? (d : Disk) (p : Path) : Option Reason :=
  match d.node p with
  | .ok (.directory _ access) => if access.listable then none else some .permissionDenied
  | .ok _ => some .notDirectory
  | .error reason => some reason

end Disk
end LineBudget.Files
