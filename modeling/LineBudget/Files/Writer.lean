import LineBudget.Files.Tree
import LineBudget.Text.Utf8

/-! Writing text to files, with the modes of opening. -/
namespace LineBudget.Files

inductive Opening where
  | read
  | truncate
  | append
  | create
  deriving DecidableEq, Repr

/-- How a file is opened for text. With `update` it may be both read and written. -/
structure Mode where
  opening : Opening
  update : Bool := false
  deriving DecidableEq, Repr

inductive ModeError where
  | invalid (mode : String)
  | textAndBinary
  | severalOpenings
  | binaryWithEncoding
  | noOpening
  deriving DecidableEq, Repr

def ModeError.message : ModeError → String
  | .invalid mode => s!"invalid mode: {Text.literal mode}"
  | .textAndBinary => "can't have text and binary mode at once"
  | .severalOpenings => "must have exactly one of create/read/write/append mode"
  | .binaryWithEncoding => "binary mode doesn't take an encoding argument"
  | .noOpening =>
    "Must have exactly one of create/read/write/append mode and at most one plus"

def Opening.ofLetter? : Char → Option Opening
  | 'r' => some .read
  | 'w' => some .truncate
  | 'a' => some .append
  | 'x' => some .create
  | _ => none

/-- Reads a mode text: each letter at most once and exactly one way of opening, for text. -/
def Mode.ofText (text : String) : Except ModeError Mode :=
  let letters := text.toList
  if letters.eraseDups.length < letters.length || letters.any fun c => !"rwaxbt+".contains c then
    .error (.invalid text)
  else if letters.contains 't' && letters.contains 'b' then .error .textAndBinary
  else match letters.filterMap Opening.ofLetter? with
    | [] => .error (if letters.contains 'b' then .binaryWithEncoding else .noOpening)
    | [opening] =>
      if letters.contains 'b' then .error .binaryWithEncoding
      else .ok ⟨opening, letters.contains '+'⟩
    | _ => .error .severalOpenings

inductive WriteError where
  | mode (error : ModeError)
  | nulInPath
  | refused (path : String) (refusal : Refusal)
  | notWritable (path : String)
  deriving DecidableEq, Repr

/-- New octets over old ones from the start; what is longer stays. -/
def overwrite (old new : List UInt8) : List UInt8 := new ++ old.drop new.length

def Mode.apply (mode : Mode) (old new : List UInt8) : List UInt8 :=
  match mode.opening with
  | .truncate | .create => new
  | .append => old ++ new
  | .read => overwrite old new

namespace Disk

def putFile (d : Disk) (names : List String) (content : List UInt8) (readable : Bool) : Disk :=
  { d with root := d.root.insert (.file content readable) names }

def write (d : Disk) (p : Path) (data mode : String) : Except WriteError Disk := do
  let mode ← (Mode.ofText mode).mapError .mode
  if hasNul p then throw .nulInPath
  let refuse (reason : Reason) : WriteError := .refused p.text ⟨reason, p.text⟩
  let octets := Text.Utf8.encode data
  match d.place p (mode.opening ≠ .create) with
  | .error reason => throw (refuse reason)
  | .ok (.vacant names) =>
    if mode.opening = .read then throw (refuse .notFound)
    else return d.putFile names octets true
  | .ok (.taken names) =>
    if mode.opening = .create then throw (refuse .exists)
    else match d.root.find? names with
      | some (.file old readable) =>
        if mode.opening = .read ∧ !readable then throw (refuse .permissionDenied)
        else if mode = ⟨.read, false⟩ then throw (.notWritable p.text)
        else return d.putFile names (mode.apply old octets) readable
      | _ => throw (refuse .isDirectory)

end Disk

structure Writer (σ : Type) where
  present : σ → Except Failure Bool
  write : σ → (data mode : String) → Except WriteError σ

def Writer.file (p : Path) : Writer Disk where
  present d := d.pathExists p
  write d data mode := d.write p data mode

/-- A file kept in memory, for trying out what would be written. -/
structure Draft where
  /-- Nothing for a file that does not exist. -/
  content : Option String := none
  /-- The data and mode of each write, the latest first. -/
  writes : List (String × String) := []
  deriving DecidableEq, Repr

/-- Writing to a draft replaces its content in mode `w`, and otherwise adds to it. -/
def Draft.write (draft : Draft) (data mode : String) : Draft where
  content := match draft.content with
    | some old => some (if mode = "w" then data else old ++ data)
    | none => some data
  writes := (data, mode) :: draft.writes

def Writer.draft : Writer Draft where
  present draft := .ok draft.content.isSome
  write draft data mode := .ok (draft.write data mode)

end LineBudget.Files
