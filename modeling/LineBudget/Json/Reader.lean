import LineBudget.Json.Basic
import LineBudget.Number.Decimal

/-! Reading JSON text. -/
namespace LineBudget.Json
open LineBudget.Number

def isSpace (c : Char) : Bool := c = ' ' || c = '\t' || c = '\n' || c = '\r'

def skipSpace (text : List Char) : List Char := text.dropWhile isSpace

def readHex4? : List Char → Option (Nat × List Char)
  | a :: b :: c :: d :: rest => (digitsValue? 16 [a, b, c, d]).map (·, rest)
  | _ => none

def joinSurrogates (high low : Nat) : Nat := 0x10000 + (high - 0xD800) * 0x400 + (low - 0xDC00)

/-- One unit of a quoted text after a backslash, and what follows it. A half of a surrogate pair
without its partner is no character and reads as U+FFFD. -/
def readEscape? : List Char → Option (Char × List Char)
  | '"' :: rest => some ('"', rest)
  | '\\' :: rest => some ('\\', rest)
  | '/' :: rest => some ('/', rest)
  | 'b' :: rest => some ('\x08', rest)
  | 'f' :: rest => some ('\x0C', rest)
  | 'n' :: rest => some ('\n', rest)
  | 'r' :: rest => some ('\r', rest)
  | 't' :: rest => some ('\t', rest)
  | 'u' :: digits => do
    let (code, rest) ← readHex4? digits
    if 0xD800 ≤ code ∧ code < 0xDC00 then
      match rest with
      | '\\' :: 'u' :: digits =>
        match readHex4? digits with
        | some (low, after) =>
          if 0xDC00 ≤ low ∧ low < 0xE000 then some (Char.ofNat (joinSurrogates code low), after)
          else some ('\uFFFD', rest)
        | none => some ('\uFFFD', rest)
      | _ => some ('\uFFFD', rest)
    else if 0xDC00 ≤ code ∧ code < 0xE000 then some ('\uFFFD', rest)
    else some (Char.ofNat code, rest)
  | _ => none

/-- The rest of a quoted text up to its closing quote; `done` holds its start in reverse. -/
def readQuoted? (fuel : Nat) (done text : List Char) : Option (List Char × List Char) :=
  match fuel, text with
  | 0, _ | _, [] => none
  | _, '"' :: rest => some (done.reverse, rest)
  | fuel + 1, '\\' :: rest =>
    match readEscape? rest with
    | none => none
    | some (c, rest) => readQuoted? fuel (c :: done) rest
  | fuel + 1, c :: rest =>
    if c.toNat < 0x20 then none else readQuoted? fuel (c :: done) rest

def isNumberChar (c : Char) : Bool :=
  c.isDigit || c = '-' || c = '+' || c = '.' || c = 'e' || c = 'E'

/-- A number is an integer unless it has a point or an exponent. -/
def readNumber? (word : List Char) : Option Json :=
  if word.any fun c => c = '.' || c = 'e' || c = 'E' then
    match readFloat word with
    | .ok number => some (.float number)
    | .error _ => none
  else
    let (negative, digits) := splitSign word
    if digits.isEmpty then none
    else (digitsValue? 10 digits).map fun n => .int (if negative then -n else n)

def afterWord? (word : String) (text : List Char) : Option (List Char) :=
  if word.toList.isPrefixOf text then some (text.drop word.toList.length) else none

mutual

def readValue? (fuel : Nat) (text : List Char) : Option (Json × List Char) :=
  match fuel with
  | 0 => none
  | fuel + 1 =>
    match skipSpace text with
    | '"' :: rest => (readQuoted? (rest.length + 1) [] rest).map fun (s, rest) =>
        (.text (String.ofList s), rest)
    | '[' :: rest =>
      match skipSpace rest with
      | ']' :: rest => some (.list [], rest)
      | rest => readItems? fuel [] rest
    | '\x7b' :: rest =>
      match skipSpace rest with
      | '\x7d' :: rest => some (.object [], rest)
      | rest => readMembers? fuel [] rest
    | rest =>
      match afterWord? "null" rest, afterWord? "true" rest, afterWord? "false" rest with
      | some rest, _, _ => some (.null, rest)
      | _, some rest, _ => some (.bool true, rest)
      | _, _, some rest => some (.bool false, rest)
      | none, none, none =>
        match afterWord? "NaN" rest, afterWord? "Infinity" rest, afterWord? "-Infinity" rest with
        | some rest, _, _ => some (.float .nan, rest)
        | _, some rest, _ => some (.float (.infinite false), rest)
        | _, _, some rest => some (.float (.infinite true), rest)
        | none, none, none =>
          let word := rest.takeWhile isNumberChar
          (readNumber? word).map fun value => (value, rest.drop word.length)

/-- Items up to the closing bracket; `done` holds those before in reverse. -/
def readItems? (fuel : Nat) (done : List Json) (text : List Char) : Option (Json × List Char) :=
  match fuel with
  | 0 => none
  | fuel + 1 => do
    let (item, rest) ← readValue? fuel text
    match skipSpace rest with
    | ',' :: rest => readItems? fuel (item :: done) rest
    | ']' :: rest => some (.list (item :: done).reverse, rest)
    | _ => none

/-- Members up to the closing brace; `done` holds those before in reverse. -/
def readMembers? (fuel : Nat) (done : List (String × Json)) (text : List Char) :
    Option (Json × List Char) :=
  match fuel with
  | 0 => none
  | fuel + 1 =>
    match skipSpace text with
    | '"' :: rest => do
      let (key, rest) ← readQuoted? (rest.length + 1) [] rest
      match skipSpace rest with
      | ':' :: rest => do
        let (value, rest) ← readValue? fuel rest
        match skipSpace rest with
        | ',' :: rest => readMembers? fuel ((String.ofList key, value) :: done) rest
        | '\x7d' :: rest =>
          some (.object ((String.ofList key, value) :: done).reverse, rest)
        | _ => none
      | _ => none
    | _ => none

end

def parse? (text : String) : Option Json := do
  let (value, rest) ← readValue? (2 * text.length + 2) text.toList
  if (skipSpace rest).isEmpty then some value else none

end LineBudget.Json
