import LineBudget.Text.Printable

/-! Texts as quoted literals, the form in which messages show a text whose ends and whose
invisible characters matter. -/
namespace LineBudget.Text

/-- `width` lower-case hexadecimal digits of `n`, most significant first. -/
def hexDigits (width n : Nat) : List Char :=
  match width with
  | 0 => []
  | width + 1 => hexDigits width (n / 16) ++ [Nat.digitChar (n % 16)]

/-- One character inside a literal with the given quote. -/
def literalChar (quote c : Char) : List Char :=
  if c = quote || c = '\\' then ['\\', c]
  else if c = '\n' then ['\\', 'n']
  else if c = '\r' then ['\\', 'r']
  else if c = '\t' then ['\\', 't']
  else if isPrintable c then [c]
  else if c.toNat < 0x100 then '\\' :: 'x' :: hexDigits 2 c.toNat
  else if c.toNat < 0x10000 then '\\' :: 'u' :: hexDigits 4 c.toNat
  else '\\' :: 'U' :: hexDigits 8 c.toNat

/-- Single quotes, unless the text has a single quote and no double one. -/
def literalQuote (text : List Char) : Char :=
  if text.contains '\'' && !text.contains '"' then '"' else '\''

def literalChars (text : List Char) : List Char :=
  let quote := literalQuote text
  quote :: text.flatMap (literalChar quote) ++ [quote]

/-- The text as a quoted literal. -/
def literal (text : String) : String := String.ofList (literalChars text.toList)

end LineBudget.Text
