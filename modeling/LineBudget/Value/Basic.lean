import LineBudget.Number.Shortest
import LineBudget.Json.Basic
import LineBudget.Text.Literal

/-! Dynamic values: what a document may hold where a setting is expected. -/
namespace LineBudget

inductive Value where
  | null
  | bool (value : Bool)
  | int (value : Int)
  | float (value : Number.Binary64)
  | text (value : String)
  | list (items : List Value)
  /-- Entries in the order of the document; of several with one key the last counts. -/
  | map (entries : List (Value × Value))
  /-- A calendar day, perhaps with a time; no setting takes one. -/
  | moment (dayOnly : Bool) (written : String)
  | octets (bytes : List UInt8)
  | set (members : List Value)
  | pair (first second : Value)
  deriving Inhabited, Repr

namespace Value

/-- Nothing, zero, false and what is empty count as not given. -/
def isBlank : Value → Bool
  | .null => true
  | .bool value => !value
  | .int value => value = 0
  | .float value => value.isZero
  | .text value => value.isEmpty
  | .list items => items.isEmpty
  | .map entries => entries.isEmpty
  | .octets bytes => bytes.isEmpty
  | .set members => members.isEmpty
  | .moment _ _ | .pair _ _ => false

def get? (entries : List (Value × Value)) (key : String) : Option Value :=
  (entries.reverse.find? fun
    | (.text k, _) => k = key
    | _ => false).map (·.2)

def canBeKey : Value → Bool
  | .list _ | .map _ | .set _ => false
  | _ => true

mutual

def ofJson : Json → Value
  | .null => .null
  | .bool value => .bool value
  | .int value => .int value
  | .float value => .float value
  | .text value => .text value
  | .list items => .list (ofItems items)
  | .object members => .map (ofMembers members)

def ofItems : List Json → List Value
  | [] => []
  | item :: rest => ofJson item :: ofItems rest

def ofMembers : List (String × Json) → List (Value × Value)
  | [] => []
  | (key, value) :: rest => (.text key, ofJson value) :: ofMembers rest

end

/-- The texts of a list of texts; none if an item is something else. -/
def texts? (items : List Value) : Option (List String) :=
  items.mapM fun
    | .text t => some t
    | _ => none

mutual

/-- A value as a literal, the form in which messages show it. -/
def literal : Value → String
  | .null => "None"
  | .bool value => if value then "True" else "False"
  | .int value => toString value
  | .float value => value.text
  | .text value => Text.literal value
  | .list items => "[" ++ ", ".intercalate (literals items) ++ "]"
  | .map entries => "\x7b" ++ ", ".intercalate (entryLiterals entries) ++ "\x7d"
  | .moment _ written => written
  | .octets _ => "b''"
  | .set members => "\x7b" ++ ", ".intercalate (literals members) ++ "\x7d"
  | .pair first second => "(" ++ literal first ++ ", " ++ literal second ++ ")"

def literals : List Value → List String
  | [] => []
  | item :: rest => literal item :: literals rest

def entryLiterals : List (Value × Value) → List String
  | [] => []
  | (key, value) :: rest => (literal key ++ ": " ++ literal value) :: entryLiterals rest

end

end Value
end LineBudget
