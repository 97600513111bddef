import LineBudget.Number.Shortest

/-! JSON values. Integers are unbounded and kept apart from floating-point numbers; the members of
an object keep their order. -/
namespace LineBudget

inductive Json where
  | null
  | bool (value : Bool)
  | int (value : Int)
  | float (value : Number.Binary64)
  | text (value : String)
  | list (items : List Json)
  | object (members : List (String × Json))
  deriving Inhabited, Repr

namespace Json

/-- The value of a member; of several with one key the last. -/
def member? (key : String) : Json → Option Json
  | .object members => members.reverse.lookup key
  | _ => none

end Json
end LineBudget
