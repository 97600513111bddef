/-! How lines are counted, and the counts of one file. -/
namespace LineBudget.Count

/-- All physical lines, or those that are neither blank nor comment. -/
inductive Mode where
  | all
  | codeOnly
  deriving DecidableEq, Repr, Inhabited

def Mode.name : Mode → String
  | .all => "all"
  | .codeOnly => "code_only"

def Mode.ofName? (name : String) : Option Mode :=
  if name = Mode.all.name then some .all
  else if name = Mode.codeOnly.name then some .codeOnly
  else none

theorem Mode.ofName?_name (mode : Mode) : ofName? mode.name = some mode := by
  cases mode <;> decide

/-- The counts of a file, under the path it was submitted as. -/
structure FileCount where
  path : String
  total : Nat
  /-- Equal to `total` where all lines were counted. -/
  code : Nat
  deriving DecidableEq, Repr

def FileCount.lines (c : FileCount) : Mode → Nat
  | .all => c.total
  | .codeOnly => c.code

end LineBudget.Count
