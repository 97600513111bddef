import LineBudget.Text.Blank
import LineBudget.Text.Digit
import LineBudget.Text.Literal

/-! Integers from text. A numeral may have blanks around it, a sign, the letter of its base after
a zero, single underscores between its digits, and digits of any script. -/
namespace LineBudget.Number
open LineBudget.Text

/-- Blanks around a numeral. The information separators of ASCII are none. -/
def isNumeralBlank (c : Char) : Bool := isBlank c && !(0x1C ≤ c.toNat && c.toNat ≤ 0x1F)

/-- Digits of other scripts become ASCII ones, and blanks beside ASCII become spaces. -/
def plainChar (c : Char) : Char :=
  if c.toNat < 0x80 then c
  else if isBlank c then ' '
  else match decimalValue? c with
    | some n => Nat.digitChar n
    | none => '?'

def plainNumeral (text : List Char) : List Char :=
  let inner := (text.map plainChar).dropWhile isNumeralBlank
  (inner.reverse.dropWhile isNumeralBlank).reverse

/-- The sign in front of a numeral, true for a minus, and what follows it. -/
def splitSign : List Char → Bool × List Char
  | '-' :: rest => (true, rest)
  | '+' :: rest => (false, rest)
  | rest => (false, rest)

/-- Removes underscores; each must stand between two characters that are none. -/
def dropUnderscores : List Char → Option (List Char)
  | [] => some []
  | ['_'] => none
  | '_' :: '_' :: _ => none
  | '_' :: rest => dropUnderscores rest
  | c :: rest => (dropUnderscores rest).map (c :: ·)

/-- The value of digits in a base, most significant first. -/
def digitsValue? (base : Nat) (digits : List Char) : Option Nat :=
  digits.foldlM (fun n c => do
    let d ← alphanumericValue? c
    if d < base then some (n * base + d) else none) 0

/-- The letter that may follow a leading zero in a base. -/
def baseLetter : Nat → Option Char
  | 2 => some 'b'
  | 8 => some 'o'
  | 16 => some 'x'
  | _ => none

def dropBaseLetter (base : Nat) : List Char → List Char
  | '0' :: c :: rest =>
    if baseLetter base = some c.toLower then
      match rest with
      | '_' :: digits => digits
      | digits => digits
    else '0' :: c :: rest
  | rest => rest

inductive NumeralError where
  | malformed (base : Nat) (text : List Char)
  | tooLong (digits : Nat)
  deriving DecidableEq, Repr

/-- Most digits of a numeral in a base that is no power of two. -/
def maxDigits : Nat := 4300

/-- What is said of an integer with more digits. -/
def beyondMaxDigits : String := s!"Exceeds the limit ({maxDigits} digits) for integer string conversion"

def increaseMaxDigits : String := "use sys.set_int_max_str_digits() to increase the limit"

/-- Whether an integer can be written in base ten. -/
def isWritable (i : Int) : Bool := (Nat.toDigits 10 i.natAbs).length ≤ maxDigits

/-- The text is shown as a literal, cut after 200 characters. -/
def NumeralError.message : NumeralError → String
  | .malformed base text =>
    s!"invalid literal for int() with base {base}: {String.ofList ((literalChars text).take 200)}"
  | .tooLong digits => s!"{beyondMaxDigits}: value has {digits} digits; {increaseMaxDigits}"

/-- A character of a numeral's body in a base: a digit below the base or an underscore. -/
def isBodyChar (base : Nat) (c : Char) : Bool :=
  c = '_' || (alphanumericValue? c).any (· < base)

/-- Reads a whole text as an integer in a base from 2 to 36. The number of digits is checked before
what follows them. -/
def readInteger (base : Nat) (text : List Char) : Except NumeralError Int :=
  let (negative, unsigned) := splitSign (plainNumeral text)
  let rest := dropBaseLetter base unsigned
  match rest, dropUnderscores (rest.takeWhile (isBodyChar base)) with
  | '_' :: _, _ | _, none | _, some [] => .error (.malformed base text)
  | _, some digits =>
    if base = 10 ∧ maxDigits < digits.length then .error (.tooLong digits.length)
    else match rest.all (isBodyChar base), digitsValue? base digits with
      | true, some n => .ok (if negative then -n else n)
      | _, _ => .error (.malformed base text)

end LineBudget.Number
