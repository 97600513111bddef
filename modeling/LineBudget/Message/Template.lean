import LineBudget.Message.Catalogue

/-! Putting arguments into messages. -/
namespace LineBudget.Message

/-- The texts between the places for arguments. -/
def segments : List Char → List (List Char)
  | [] => [[]]
  | '\x7b' :: '\x7d' :: rest => [] :: segments rest
  | c :: rest => match segments rest with
    | [] => [[c]]
    | first :: others => (c :: first) :: others

def places (text : String) : Nat := (segments text.toList).length - 1

structure MissingArgument where
  index : Nat
  deriving DecidableEq, Repr

def MissingArgument.message (e : MissingArgument) : String :=
  s!"Replacement index {e.index} out of range for positional args tuple"

/-- Puts arguments between segments, each as it is. Arguments without a place are left out. -/
def fill (index : Nat) : List (List Char) → List String → Except MissingArgument (List Char)
  | [], _ => .ok []
  | [last], _ => .ok last
  | _ :: _ :: _, [] => .error ⟨index⟩
  | segment :: rest, argument :: arguments =>
    (fill (index + 1) rest arguments).map (segment ++ argument.toList ++ ·)

/-- A text with its arguments; without arguments it stays as it is. -/
def format (text : String) (arguments : List String) : Except MissingArgument String :=
  if arguments.isEmpty then .ok text
  else (fill 0 (segments text.toList) arguments).map String.ofList

/-- The message of a key. A key without a message stands for itself. -/
def phrase (locale : Locale) (key : String) (arguments : List String) :
    Except MissingArgument String :=
  match (catalogue locale).lookup key with
  | none => .ok key
  | some text => format text arguments

/-- The message of a key that takes no more arguments than are given. -/
def say (locale : Locale) (key : String) (arguments : List String) : String :=
  match phrase locale key arguments with
  | .ok text => text
  | .error e => e.message

end LineBudget.Message
