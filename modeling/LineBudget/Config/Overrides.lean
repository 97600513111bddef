import LineBudget.Config.Violation

/-! Settings given explicitly for one run. -/
namespace LineBudget.Config

/-- What is not given keeps its configured value. An empty ignore list is given. -/
structure Overrides where
  maxFileLines : Option Value := none
  maxDirectoryLines : Option Value := none
  warningThreshold : Option Value := none
  countMode : Option Value := none
  ignore : Option (List String) := none
  noDefaultExcludes : Bool := false
  deriving Inhabited, Repr

def Settings.override (s : Settings) (o : Overrides) : Settings where
  rules := {
    maxFileLines := o.maxFileLines.getD s.rules.maxFileLines
    maxDirectoryLines := o.maxDirectoryLines.getD s.rules.maxDirectoryLines
    warningThreshold := o.warningThreshold.getD s.rules.warningThreshold }
  countMode := o.countMode.getD s.countMode
  ignore := o.ignore.getD s.ignore
  defaultExcludes := s.defaultExcludes && !o.noDefaultExcludes
  language := s.language

/-- Overrides the settings and checks the result, which stands even where the check fails. Without
overrides nothing is done. -/
def Settings.apply (s : Settings) (o : Option Overrides) :
    Settings × Except (List Violation) Unit :=
  match o with
  | none => (s, .ok ())
  | some o => (s.override o, (s.override o).validate)

end LineBudget.Config
