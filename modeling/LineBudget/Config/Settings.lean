import LineBudget.Value.Basic
import LineBudget.Count.Basic

/-! The settings of a check. Values are kept as they were given, so that those out of range can be
reported together. -/
namespace LineBudget.Config

/-- The limits, and the percentage by which a limit may be passed with a warning. -/
structure Rules where
  maxFileLines : Value := .int 300
  maxDirectoryLines : Value := .int 2000
  warningThreshold : Value := .int 10
  deriving Inhabited, Repr

structure Settings where
  rules : Rules := {}
  countMode : Value := .text Count.Mode.all.name
  ignore : List String := []
  defaultExcludes : Bool := true
  language : Value := .text "en"
  deriving Inhabited, Repr

structure BadMode where
  value : Value

def BadMode.message (e : BadMode) : String := s!"{e.value.literal} is not a valid CountMode"

def modeOfValue (value : Value) : Except BadMode Count.Mode :=
  match value with
  | .text name => match Count.Mode.ofName? name with
    | some mode => .ok mode
    | none => .error ⟨value⟩
  | _ => .error ⟨value⟩

def Settings.mode (s : Settings) : Except BadMode Count.Mode := modeOfValue s.countMode

end LineBudget.Config
