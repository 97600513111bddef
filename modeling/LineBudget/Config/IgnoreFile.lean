import LineBudget.Config.Error
import LineBudget.Ignore.Defaults
import LineBudget.Text.Blank
import LineBudget.Text.Newline
import LineBudget.Text.Split

/-! The ignore file, and the exclude patterns of a run. -/
namespace LineBudget.Config
open LineBudget.Files

def ignoreName : String := ".linecapignore"

/-- The key of the warning that the ignore file takes the place of the ignore list. -/
def bothDefined : String := "ignore.both_defined"

/-- The patterns in a text: its trimmed lines without blank ones and comments. -/
def patternsOfText (text : List Char) : List String :=
  let lines := (Text.pieces '\n' (Text.unifyNewlines text)).map Text.trim
  (lines.filter fun line => !line.isEmpty && line.head? ≠ some '#').map String.ofList

/-- How many octets of the file are read at a time. -/
def chunkSize : Nat := 8192

/-- The octet with which a fault shows: it stands at its place, or behind the broken start of a
character. Half of a surrogate pair shows one octet later. -/
def shownAt (content : List UInt8) (fault : Text.Utf8.Fault) : Nat :=
  match fault.defect with
  | .invalidStart => fault.position
  | .invalidContinuation | .cutOff =>
    let behind := fault.position + fault.broken.length
    let surrogate := fault.broken = [0xED] ∧ content[behind]?.any fun b => 0xA0 ≤ b && b ≤ 0xBF
    if surrogate then behind + 1 else behind

/-- Where the character begins that has an octet at a place. -/
def characterStart (content : List UInt8) (place : Nat) : Nat :=
  place - ((content.take (place + 1)).reverse.takeWhile fun b => 0x80 ≤ b && b ≤ 0xBF).length

/-- Each chunk is decoded by itself, after what the one before it held of an unfinished character,
and places are counted from there. At the end of the file only such a rest is left. -/
def placeFault (content : List UInt8) (fault : Text.Utf8.Fault) : Text.Utf8.Fault :=
  let shown := shownAt content fault
  let chunk := chunkSize * (shown / chunkSize)
  let start :=
    if content.length ≤ shown || fault.position ≤ chunk then fault.position
    else characterStart content chunk
  { fault with position := fault.position - start }

/-- In the first chunk, places are those in the file. -/
theorem placeFault_first {content : List UInt8} {fault : Text.Utf8.Fault}
    (first : shownAt content fault < chunkSize) (inside : shownAt content fault < content.length) :
    placeFault content fault = fault := by
  have chunk : shownAt content fault / chunkSize = 0 := Nat.div_eq_of_lt first
  have start : characterStart content 0 = 0 := Nat.zero_sub _
  obtain ⟨defect, position, broken⟩ := fault
  cases position with
  | zero => simp only [placeFault, Nat.zero_sub]
  | succ position => simp [placeFault, chunk, start, Nat.not_le.mpr inside]

def patternsOfContent (content : List UInt8) : Except LoadError (List String) :=
  match Text.Utf8.decode content with
  | .ok text => .ok (patternsOfText text)
  | .error fault => .error (.notUtf8 (placeFault content fault))

def readIgnoreFile (d : Disk) (place : Path) : Except LoadError (List String) :=
  match d.read place with
  | .error (.refused refusal) => .error (.config (.ignoreUnreadable refusal.message))
  | .error failure => .error (.access failure)
  | .ok content => patternsOfContent content

/-- The user's patterns and the keys of warnings about them. -/
structure UserPatterns where
  patterns : List String
  warnings : List String
  deriving DecidableEq, Repr

/-- The patterns of the ignore file in a directory, or without one those of the settings. -/
def Settings.userPatterns (s : Settings) (d : Disk) (base : Path) :
    Except LoadError UserPatterns := do
  let place := base.append [ignoreName]
  if ← (d.isFile place).mapError .access then do
    let patterns ← readIgnoreFile d place
    return ⟨patterns, if s.ignore.isEmpty then [] else [bothDefined]⟩
  else return ⟨s.ignore, []⟩

/-- The default patterns where they are wanted, and then the user's. -/
def Settings.excludePatterns (s : Settings) (d : Disk) (base : Path) :
    Except LoadError (List String) := do
  let user ← s.userPatterns d base
  return (if s.defaultExcludes then Ignore.defaultPatterns else []) ++ user.patterns

def currentDirectory (d : Disk) : Path := Path.ofLocation d.current

end LineBudget.Config
