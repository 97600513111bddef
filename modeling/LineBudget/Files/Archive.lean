import LineBudget.Files.Writer
import LineBudget.Number.Numeral

/-! Trees from tar archives. A member is a header of one block with fields at fixed places, and its
content in whole blocks. -/
namespace LineBudget.Files.Archive

def blockSize : Nat := 512

/-- A field of a header, up to the first NUL. -/
def field (header : List UInt8) (start width : Nat) : List UInt8 :=
  ((header.drop start).take width).takeWhile (· ≠ 0)

def textOf (octets : List UInt8) : String :=
  String.ofList (Text.Utf8.decodeReplacing (octets.takeWhile (· ≠ 0)))

/-- An octal number, perhaps with spaces around it. -/
def numberOf (octets : List UInt8) : Nat :=
  let digits := (octets.filter (· ≠ 32)).map fun b => Char.ofNat b.toNat
  (Number.digitsValue? 8 digits).getD 0

structure Header where
  name : String
  permissions : Nat
  size : Nat
  sort : Char
  target : String
  deriving DecidableEq, Repr

def Header.ofBlock (block : List UInt8) : Header :=
  let stem := field block 345 155
  let name := textOf (field block 0 100)
  { name := if stem.isEmpty then name else textOf stem ++ "/" ++ name
    permissions := numberOf (field block 100 8)
    size := numberOf (field block 124 12)
    sort := Char.ofNat ((block.drop 156).headD 0).toNat
    target := textOf (field block 157 100) }

def Header.readable (h : Header) : Bool := h.permissions / 256 % 2 = 1

def Header.access (h : Header) : Access := ⟨h.readable, h.permissions / 64 % 2 = 1⟩

/-- A name or target that is too long for a header comes in a member of its own in front. -/
structure LongFields where
  name : Option String := none
  target : Option String := none
  deriving DecidableEq, Repr

/-- The tree with one more member. Directories keep what is already in them, and members of
unknown sorts are left out. -/
def addMember (root : Node) (h : Header) (content : List UInt8) : Node :=
  let names := Path.partsOf h.name
  match h.sort with
  | '0' | '\x00' | '7' => root.insert (.file content h.readable) names
  | '1' => match root.find? (Path.partsOf h.target) with
    | some node => root.insert node names
    | none => root
  | '2' => root.insert (.link h.target) names
  | '5' => root.insert (.directory (((root.find? names).map Node.entries).getD []) h.access) names
  | _ => root

/-- Adds the members of an archive to a tree. A block that begins with NUL ends the archive. -/
def addMembers (root : Node) (long : LongFields) : List UInt8 → Node
  | [] | 0 :: _ => root
  | b :: rest =>
    let h := Header.ofBlock (b :: rest.take (blockSize - 1))
    let body := rest.drop (blockSize - 1)
    let content := body.take h.size
    let after := body.drop ((h.size + blockSize - 1) / blockSize * blockSize)
    match h.sort with
    | 'L' => addMembers root { long with name := some (textOf content) } after
    | 'K' => addMembers root { long with target := some (textOf content) } after
    | _ =>
      let h := { h with name := long.name.getD h.name, target := long.target.getD h.target }
      addMembers (addMember root h content) {} after
termination_by octets => octets.length
decreasing_by
  all_goals
    simp only [List.length_cons, List.length_drop]
    omega

def disk (octets : List UInt8) : Disk := { root := addMembers (.directory [] {}) {} octets }

end LineBudget.Files.Archive
