import LineBudget.Text.Literal

/-! Globs for one name of a path: stars, question marks, bracket sets and escaped characters. -/
namespace LineBudget.Ignore

inductive Piece where
  | literal (c : Char)
  /-- Any one character but a slash. -/
  | one
  /-- Any run of characters without a slash, also an empty one. -/
  | run
  /-- A bracket set, by what stands between its brackets after a sign of negation. -/
  | set (negated : Bool) (body : List Char)
  deriving DecidableEq, Repr

inductive GlobDefect where
  | openSet
  | danglingEscape (glob : List Char)
  deriving DecidableEq, Repr

/-- What stands before the bracket that closes a set, and what follows that bracket. The first
character always belongs to the set, even if it is a closing bracket. -/
def setBody? : List Char → Option (List Char × List Char)
  | [] => none
  | first :: rest =>
    let body := rest.takeWhile (· ≠ ']')
    match rest.drop body.length with
    | _ :: after => some (first :: body, after)
    | [] => none

theorem length_of_setBody? {text body after : List Char}
    (found : setBody? text = some (body, after)) : after.length < text.length := by
  cases text with
  | nil => cases found
  | cons first rest =>
    simp only [setBody?] at found
    split at found
    case h_1 dropped =>
      simp only [Option.some.injEq, Prod.mk.injEq] at found
      obtain ⟨_, rfl⟩ := found
      have := congrArg List.length dropped
      simp only [List.length_drop, List.length_cons] at this
      simp only [List.length_cons]
      omega
    case h_2 => cases found

def readSet? (text : List Char) : Option (Piece × List Char) :=
  match text with
  | '!' :: rest | '^' :: rest => (setBody? rest).map fun (body, after) => (.set true body, after)
  | rest => (setBody? rest).map fun (body, after) => (.set false body, after)

theorem length_of_readSet? {text : List Char} {piece : Piece} {after : List Char}
    (found : readSet? text = some (piece, after)) : after.length < text.length := by
  unfold readSet? at found
  split at found
  all_goals
    obtain ⟨⟨body, rest⟩, inner, same⟩ := Option.map_eq_some_iff.1 found
    simp only [Prod.mk.injEq] at same
    obtain ⟨_, rfl⟩ := same
    have := length_of_setBody? inner
    grind

/-- Reads the rest of a glob; `glob` is all of it. -/
def readGlobFrom (glob : List Char) (text : List Char) : Except GlobDefect (List Piece) :=
  match text with
  | [] => .ok []
  | ['\\'] => .error (.danglingEscape glob)
  | '\\' :: c :: rest => (readGlobFrom glob rest).map (.literal c :: ·)
  | '*' :: rest => (readGlobFrom glob rest).map (.run :: ·)
  | '?' :: rest => (readGlobFrom glob rest).map (.one :: ·)
  | '[' :: rest =>
    match found : readSet? rest with
    | none => .error .openSet
    | some (piece, after) =>
      have := length_of_readSet? found
      (readGlobFrom glob after).map (piece :: ·)
  | c :: rest => (readGlobFrom glob rest).map (.literal c :: ·)
termination_by text.length
decreasing_by
  all_goals
    simp only [List.length_cons]
    omega

def readGlob (glob : List Char) : Except GlobDefect (List Piece) := readGlobFrom glob glob

structure CharRange where
  first : Char
  last : Char
  deriving DecidableEq, Repr

def CharRange.holds (r : CharRange) (c : Char) : Bool := r.first ≤ c && c ≤ r.last

/-- A range whose ends are in the wrong order, and where it starts in the body. -/
structure ReversedRange where
  first : Char
  last : Char
  offset : Nat
  deriving DecidableEq, Repr

/-- Columns that a character of a set takes up in the written expression: a backslash is doubled. -/
def columns (c : Char) : Nat := if c = '\\' then 2 else 1

def totalColumns (columnsOf : α → Nat) (items : List α) : Nat :=
  items.foldl (fun n item => n + columnsOf item) 0

/-- The ranges of a set's body. A hyphen between two characters makes a range. -/
def readRanges (offset : Nat) : List Char → Except ReversedRange (List CharRange)
  | first :: '-' :: last :: rest =>
    if last < first then .error ⟨first, last, offset⟩
    else (readRanges (offset + columns first + 1 + columns last) rest).map (⟨first, last⟩ :: ·)
  | c :: rest => (readRanges (offset + columns c) rest).map (⟨c, c⟩ :: ·)
  | [] => .ok []

end LineBudget.Ignore
