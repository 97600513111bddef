import LineBudget.Config.Settings

/-! The checks on settings. All violations are reported together, in a fixed order. -/
namespace LineBudget.Config

inductive Violation where
  | maxFileLines
  | maxDirectoryLines
  | warningThreshold
  | countMode
  | language
  deriving DecidableEq, Repr

namespace Violation

def code : Violation → String
  | .maxFileLines => "validation.max_lines_per_file"
  | .maxDirectoryLines => "validation.max_lines_per_directory"
  | .warningThreshold => "validation.warning_threshold"
  | .countMode => "validation.count_mode"
  | .language => "validation.language"

def message : Violation → String
  | .maxFileLines => "\"max_lines_per_file\" must be a positive integer"
  | .maxDirectoryLines => "\"max_lines_per_directory\" must be a positive integer"
  | .warningThreshold => "\"warning_threshold\" must be between 0 and 100"
  | .countMode => "\"count_mode\" must be \"all\" or \"code_only\""
  | .language => "\"language\" must be \"en\" or \"ja\""

def summary (violations : List Violation) : String :=
  "; ".intercalate (violations.map message)

end Violation

def languages : List String := ["en", "ja"]

/-- An integer of at least one; truth values are no integers. -/
def isLimit : Value → Bool
  | .int n => 0 < n
  | _ => false

def isPercentage : Value → Bool
  | .int n => 0 ≤ n && n ≤ 100
  | _ => false

def isMode : Value → Bool
  | .text name => (Count.Mode.ofName? name).isSome
  | _ => false

def isLanguage : Value → Bool
  | .text name => languages.contains name
  | _ => false

/-- The violations of settings; none means that they are valid. -/
def Settings.violations (s : Settings) : List Violation :=
  (if isLimit s.rules.maxFileLines then [] else [.maxFileLines]) ++
  (if isLimit s.rules.maxDirectoryLines then [] else [.maxDirectoryLines]) ++
  (if isPercentage s.rules.warningThreshold then [] else [.warningThreshold]) ++
  (if isMode s.countMode then [] else [.countMode]) ++
  (if isLanguage s.language then [] else [.language])

def Settings.validate (s : Settings) : Except (List Violation) Unit :=
  match s.violations with
  | [] => .ok ()
  | violations => .error violations

end LineBudget.Config
