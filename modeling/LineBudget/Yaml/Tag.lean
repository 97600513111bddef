/-! Tags, and the tag that a plain scalar has by its looks alone. -/
namespace LineBudget.Yaml

inductive Tag where
  | null
  | bool
  | int
  | float
  | binary
  | timestamp
  | omap
  | pairs
  | set
  | str
  | seq
  | map
  | merge
  | value
  | other (uri : String)
  deriving DecidableEq, Repr

/-- The start of the tags that every document knows. -/
def standardStem : String := "tag:yaml.org,2002:"

def standardTags : List (String × Tag) := [
  ("null", .null), ("bool", .bool), ("int", .int), ("float", .float), ("binary", .binary),
  ("timestamp", .timestamp), ("omap", .omap), ("pairs", .pairs), ("set", .set), ("str", .str),
  ("seq", .seq), ("map", .map), ("merge", .merge), ("value", .value)]

def Tag.ofUri (uri : String) : Tag :=
  match standardTags.find? fun (name, _) => standardStem ++ name = uri with
  | some (_, tag) => tag
  | none => .other uri

/-! ### Plain scalars -/

def boolWords : List (String × Bool) := [
  ("yes", true), ("no", false), ("true", true), ("false", false), ("on", true), ("off", false)]

/-- A word in lower case, with a capital, or all in capitals. -/
def spellings (word : String) : List String := [word, word.capitalize, word.toUpper]

def isBool (text : String) : Bool :=
  boolWords.any fun (word, _) => (spellings word).contains text

def isNull (text : String) : Bool := text = "~" || text = "" || (spellings "null").contains text

def dropSign : List Char → List Char
  | '-' :: rest | '+' :: rest => rest
  | rest => rest

def isDigitOr (c : Char) : Bool := c.isDigit || c = '_'

/-- A digit and then digits and underscores. -/
def isNumeral (text : List Char) : Bool := text.head?.any Char.isDigit && text.all isDigitOr

/-- The text up to the first separator, and what follows it. -/
def cut (separator : Char) (text : List Char) : List Char × Option (List Char) :=
  let head := text.takeWhile (· ≠ separator)
  match text.drop head.length with
  | _ :: rest => (head, some rest)
  | [] => (head, none)

/-- One place of a number in base sixty: a number below sixty of one or two digits. -/
def isSixtieth : List Char → Bool
  | [a] => a.isDigit
  | [a, b] => '0' ≤ a && a ≤ '5' && b.isDigit
  | _ => false

/-- One or more places in base sixty, each after a colon. -/
def areSixtieths (fuel : Nat) (text : List Char) : Bool :=
  match fuel, text with
  | fuel + 1, ':' :: rest =>
    let (place, _) := cut ':' rest
    let after := rest.drop place.length
    isSixtieth place && (after.isEmpty || areSixtieths fuel after)
  | _, _ => false

def isInt (text : List Char) : Bool :=
  match dropSign text with
  | ['0'] => true
  | '0' :: 'b' :: digits => !digits.isEmpty && digits.all fun c => c = '0' || c = '1' || c = '_'
  | '0' :: 'x' :: digits => !digits.isEmpty && digits.all fun c =>
      isDigitOr c || ('a' ≤ c && c ≤ 'f') || ('A' ≤ c && c ≤ 'F')
  | '0' :: digits => digits.all fun c => ('0' ≤ c && c ≤ '7') || c = '_'
  | body =>
    let (whole, _) := cut ':' body
    let places := body.drop whole.length
    isNumeral whole && (places.isEmpty || areSixtieths (places.length + 1) places)

/-- An exponent with a sign, or nothing. -/
def isExponent : List Char → Bool
  | [] => true
  | e :: s :: digits =>
    (e = 'e' || e = 'E') && (s = '-' || s = '+') && !digits.isEmpty && digits.all Char.isDigit
  | _ => false

def isFloat (text : List Char) : Bool :=
  let body := dropSign text
  let word := String.ofList body
  let fraction (text : List Char) : Bool := isExponent (text.dropWhile isDigitOr)
  match cut '.' body with
  | ([], some rest) =>
    (spellings "inf").any (fun w => word = "." ++ w) ||
    (body.length = text.length &&
      ([".nan", ".NaN", ".NAN"].contains word || (rest.head?.any Char.isDigit && fraction rest)))
  | (whole, some rest) =>
    let (head, _) := cut ':' whole
    let places := whole.drop head.length
    isNumeral head &&
      ((places.isEmpty && fraction rest) ||
        (areSixtieths (places.length + 1) places && rest.all isDigitOr))
  | (_, none) => false

end LineBudget.Yaml
