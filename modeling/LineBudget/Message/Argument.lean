import LineBudget.Message.Template
import LineBudget.Number.Numeral

/-! Messages with arguments that are not texts yet. -/
namespace LineBudget.Message

/-- What can be put into a message. -/
inductive Argument where
  | text (value : String)
  | int (value : Int)
  | bool (value : Bool)
  | nothing
  deriving DecidableEq, Repr

/-- The text of an argument. An integer with too many digits has none. -/
def Argument.text? : Argument → Option String
  | .text value => some value
  | .int value => if Number.isWritable value then some (toString value) else none
  | .bool value => some (if value then "True" else "False")
  | .nothing => some "None"

/-- The texts of the arguments up to the first that has none. -/
def leadingTexts : List Argument → List String
  | [] => []
  | argument :: rest => match argument.text? with
    | some text => text :: leadingTexts rest
    | none => []

/-- Why a message cannot take its arguments: one is missing, or one has no text. -/
inductive Unfilled where
  | missing (argument : MissingArgument)
  | tooLong
  deriving DecidableEq, Repr

def Unfilled.message : Unfilled → String
  | .missing argument => argument.message
  | .tooLong => s!"{Number.beyondMaxDigits}; {Number.increaseMaxDigits}"

/-- A text with its arguments, which are written one after the other; without arguments it stays as
it is. -/
def formatWith (text : String) (arguments : List Argument) : Except Unfilled String :=
  if arguments.isEmpty then .ok text
  else
    let texts := leadingTexts arguments
    ((fill 0 (segments text.toList) texts).map String.ofList).mapError fun e =>
      if texts.length < arguments.length then .tooLong else .missing e

/-- The message of a key with arguments of any sort. A key without a message stands for itself. -/
def translate (locale : Locale) (key : String) (arguments : List Argument) :
    Except Unfilled String :=
  match (catalogue locale).lookup key with
  | none => .ok key
  | some text => formatWith text arguments

end LineBudget.Message
