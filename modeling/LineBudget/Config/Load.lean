import LineBudget.Config.Document
import LineBudget.Text.Newline
import LineBudget.Yaml.Document

/-! Finding, reading and checking the configuration of a run. -/
namespace LineBudget.Config
open LineBudget.Files

/-- What a run sees of the world: the files, and the variables of the environment. -/
structure Surroundings where
  disk : Disk
  environment : List (String × String) := []

/-- A variable's value; an empty one counts as unset. -/
def Surroundings.lookupVariable (s : Surroundings) (name : String) : Option String :=
  (s.environment.lookup name).filter (· ≠ "")

def configVariable : String := "LINECAP_CONFIG"

def preferredName : String := ".linecap.yml"

/-- The names under which a configuration is looked for, the preferred one first. -/
def configNames : List String := [preferredName, ".linecap.yaml"]

def firstFile? (d : Disk) : List String → Except Failure (Option Path)
  | [] => .ok none
  | name :: rest => do
    if ← d.isFile (Path.ofText name) then return some (Path.ofText name)
    else firstFile? d rest

/-- The first of the usual names that is a file, or else the preferred one. -/
def usualPlace (d : Disk) : Except Failure Path :=
  (firstFile? d configNames).map (·.getD (Path.ofText preferredName))

/-- The place of the configuration: as given, or from the variable, or under a usual name. -/
def locate (s : Surroundings) (given : Option String) : Except LoadError Path := do
  let place ← match given.filter (· ≠ ""), s.lookupVariable configVariable with
    | some path, _ | none, some path => pure (Path.ofText path)
    | none, none => (usualPlace s.disk).mapError .access
  if ← (s.disk.isFile place).mapError .access then return place
  else throw (.config .notFound)

def settingsOfContent (content : List UInt8) : Except LoadError Settings := do
  let text ← (Text.Utf8.decode content).mapError .notUtf8
  let value ← (Yaml.ofText (Text.unifyNewlines text)).mapError fun error =>
    if error.isMalformed then .config (.unparsable error.message) else .scalar error
  let settings ← (Settings.ofValue value).mapError .config
  settings.validate.mapError .invalid
  return settings

def readSettings (d : Disk) (place : Path) : Except LoadError Settings := do
  let content ← (d.read place).mapError fun
    | .refused refusal => .config (.unparsable refusal.message)
    | failure => .access failure
  settingsOfContent content

/-- Settings that were looked for, with the notes that were made on the way. -/
structure Loaded where
  notes : List String
  result : Except LoadError Settings

def load (s : Surroundings) (given : Option String) : Loaded :=
  match locate s given with
  | .error e => ⟨[], .error e⟩
  | .ok place => ⟨[s!"Loading config from {place.text}"], readSettings s.disk place⟩

end LineBudget.Config
