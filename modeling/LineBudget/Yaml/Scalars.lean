import LineBudget.Yaml.Error
import LineBudget.Yaml.Tag
import LineBudget.Value.Basic
import LineBudget.Text.Split

/-! The values of scalars with their tags. -/
namespace LineBudget.Yaml
open LineBudget.Number

def boolValue (text : String) : Except Error Value :=
  match boolWords.lookup text.toLower with
  | some b => .ok (.bool b)
  | none => .error (.notBool text.toLower)

/-- A sign counts only where something follows it. -/
def signed (text : List Char) : Except Error (Bool × List Char) :=
  match splitSign text with
  | (_, []) => if text.isEmpty then .error .noDigits else .ok (splitSign text)
  | split => .ok split

def integer (base : Nat) (text : List Char) : Except Error Int :=
  (readInteger base text).mapError .notInt

/-- Places of a number in base sixty, most significant first. -/
def sixtieths (text : List Char) : List (List Char) := Text.pieces ':' text

/-- An integer in base 2, 8, 10 or 16 by its first characters, or in base 60 with colons. -/
def intValue (text : List Char) : Except Error Int := do
  let (negative, body) ← signed (text.filter (· ≠ '_'))
  let magnitude ← match body with
    | ['0'] => pure 0
    | '0' :: 'b' :: digits => integer 2 digits
    | '0' :: 'x' :: digits => integer 16 digits
    | '0' :: _ => integer 8 body
    | [] => throw .noDigits
    | _ =>
      if body.contains ':' then do
        let places ← (sixtieths body).mapM (integer 10)
        pure (places.foldl (fun n place => n * 60 + place) 0)
      else integer 10 body
  return if negative then -magnitude else magnitude

def float (text : List Char) : Except Error Binary64 := (readFloat text).mapError .notFloat

/-- The sum of places in base sixty, the last one first, rounded after each step. -/
def sumPlaces (places : List Binary64) : Binary64 :=
  (places.reverse.foldl (fun (sum, base) place =>
    (Binary64.add sum (Binary64.mul place (Binary64.ofInt base)), base * 60))
    (Binary64.finite false 0, (1 : Int))).1

def floatValue (text : List Char) : Except Error Binary64 := do
  let (negative, body) ← signed ((text.filter (· ≠ '_')).map Char.toLower)
  let magnitude ←
    if body = ".inf".toList then pure (.infinite false)
    else if body = ".nan".toList then pure .nan
    else if body.contains ':' then do pure (sumPlaces (← (sixtieths body).mapM float))
    else float body
  return if negative then magnitude.negate else magnitude

def momentValue (text : String) : Except Error Value :=
  match readMoment? text.toList with
  | none => .error .notMoment
  | some m => match m.fault? with
    | some fault => .error (.noSuchMoment fault)
    | none => .ok (.moment m.clock.isNone text)

def sextet? (c : Char) : Option Nat :=
  if 'A' ≤ c ∧ c ≤ 'Z' then some (c.toNat - 'A'.toNat)
  else if 'a' ≤ c ∧ c ≤ 'z' then some (c.toNat - 'a'.toNat + 26)
  else if c.isDigit then some (c.toNat - '0'.toNat + 52)
  else if c = '+' then some 62
  else if c = '/' then some 63
  else none

/-- Decodes base 64 up to its padding. Other characters are passed over. `held` are sextets that do
not make up octets yet, and `pads` is the number of padding signs right before. -/
def readBase64 (held : List Nat) (pads : Nat) : List Char → Option (List UInt8)
  | [] => if held.isEmpty then some [] else none
  | c :: rest =>
    if c = '=' then
      if 2 ≤ held.length && 4 ≤ held.length + pads + 1 then
        some (octets held)
      else readBase64 held (if 2 ≤ held.length then pads + 1 else pads) rest
    else match sextet? c with
      | none => readBase64 held pads rest
      | some n =>
        if held.length = 3 then (readBase64 [] 0 rest).map (octets (held ++ [n]) ++ ·)
        else readBase64 (held ++ [n]) 0 rest
where
  octets : List Nat → List UInt8
    | [a, b] => [UInt8.ofNat (a * 4 + b / 16)]
    | [a, b, c] => [UInt8.ofNat (a * 4 + b / 16), UInt8.ofNat (b * 16 + c / 4)]
    | [a, b, c, d] =>
      [UInt8.ofNat (a * 4 + b / 16), UInt8.ofNat (b * 16 + c / 4), UInt8.ofNat (c * 64 + d)]
    | _ => []

def binaryValue (text : String) : Except Error Value :=
  let chars := text.toList
  if chars.all (·.toNat < 0x80) then
    match readBase64 [] 0 chars with
    | some octets => .ok (.octets octets)
    | none => .error (.fault .malformed)
  else .error (.fault .malformed)

/-- The value of a scalar. Collections and tags without a meaning have none. -/
def scalarValue (tag : Tag) (text : String) : Except Error Value :=
  match tag with
  | .null => .ok .null
  | .bool => boolValue text
  | .int => (intValue text.toList).map .int
  | .float => (floatValue text.toList).map .float
  | .binary => binaryValue text
  | .timestamp => momentValue text
  | .str => .ok (.text text)
  | _ => .error (.fault .malformed)

end LineBudget.Yaml
