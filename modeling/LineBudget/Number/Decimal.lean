import LineBudget.Number.Binary64
import LineBudget.Number.Numeral

/-! Floating-point numbers from decimal text. -/
namespace LineBudget.Number
open LineBudget.Text

/-- A text is no number. It is kept as it was given. -/
structure NotANumber where
  text : List Char
  deriving DecidableEq, Repr

def NotANumber.message (e : NotANumber) : String :=
  s!"could not convert string to float: {literal (String.ofList e.text)}"

/-- Removes underscores, each of which must stand between two digits. -/
def dropDigitUnderscores : List Char → Option (List Char)
  | [] => some []
  | ['_'] => none
  | '_' :: _ :: _ => none
  | a :: '_' :: b :: rest =>
    if a.isDigit && b.isDigit then (dropDigitUnderscores (b :: rest)).map (a :: ·) else none
  | a :: rest => (dropDigitUnderscores rest).map (a :: ·)

/-- The digits of a decimal and the power of ten of its last one. -/
def readDecimal? (text : List Char) : Option (Nat × Int) := do
  let whole := text.takeWhile Char.isDigit
  let rest := text.drop whole.length
  let fraction := match rest with
    | '.' :: tail => tail.takeWhile Char.isDigit
    | _ => []
  let rest := match rest with
    | '.' :: tail => tail.drop fraction.length
    | _ => rest
  guard !(whole.isEmpty && fraction.isEmpty)
  let digits ← digitsValue? 10 (whole ++ fraction)
  match rest with
  | [] => some (digits, -fraction.length)
  | 'e' :: exponent | 'E' :: exponent =>
    let (negative, size) := splitSign exponent
    guard (!size.isEmpty && size.all Char.isDigit)
    let size ← digitsValue? 10 size
    some (digits, (if negative then -(size : Int) else size) - fraction.length)
  | _ => none

/-- Reads a whole text as a floating-point number, with blanks around it, a sign, underscores
between digits, and the words for infinity and for no number in any case. -/
def readFloat (text : List Char) : Except NotANumber Binary64 :=
  let read : Option Binary64 := do
    let plain ← dropDigitUnderscores (plainNumeral text)
    let (negative, unsigned) := splitSign plain
    let word := String.ofList (unsigned.map Char.toLower)
    if word = "inf" ∨ word = "infinity" then some (.infinite negative)
    else if word = "nan" then some .nan
    else do
      let (digits, exponent) ← readDecimal? unsigned
      some (.ofDecimal negative digits exponent)
  match read with
  | some number => .ok number
  | none => .error ⟨text⟩

end LineBudget.Number
