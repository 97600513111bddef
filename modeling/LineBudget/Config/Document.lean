import LineBudget.Config.Error

/-! Settings from the value of a document. -/
namespace LineBudget.Config

def listOfTexts? : Value → Option (List String)
  | .list items => Value.texts? items
  | _ => none

def Rules.ofEntries (entries : List (Value × Value)) : Rules where
  maxFileLines := (Value.get? entries "max_lines_per_file").getD ({} : Rules).maxFileLines
  maxDirectoryLines :=
    (Value.get? entries "max_lines_per_directory").getD ({} : Rules).maxDirectoryLines
  warningThreshold := (Value.get? entries "warning_threshold").getD ({} : Rules).warningThreshold

/-- The user's patterns. A blank value counts as an empty list. -/
def ignoreOfEntries (entries : List (Value × Value)) : Except ConfigError (List String) :=
  match Value.get? entries "ignore" with
  | none => .ok []
  | some value =>
    if value.isBlank then .ok []
    else match listOfTexts? value with
      | some patterns => .ok patterns
      | none => .error (.unparsable "\"ignore\" must be a list of strings")

def defaultExcludesOfEntries (entries : List (Value × Value)) : Except ConfigError Bool :=
  match Value.get? entries "default_excludes" with
  | none => .ok true
  | some (.bool b) => .ok b
  | some _ => .error (.unparsable "\"default_excludes\" must be a boolean")

/-- The entries of the top level. An empty document has none. -/
def topLevel : Value → Except ConfigError (List (Value × Value))
  | .null => .ok []
  | .map entries => .ok entries
  | _ => .error (.unparsable "top level must be a mapping")

/-- Settings with defaults for missing keys. A rules section is required. Only the kinds of lists
and of truth values are checked here. -/
def Settings.ofValue (value : Value) : Except ConfigError Settings := do
  let entries ← topLevel value
  match Value.get? entries "rules" with
  | some (.map rules) => do
    let ignore ← ignoreOfEntries entries
    let defaultExcludes ← defaultExcludesOfEntries entries
    return {
      rules := Rules.ofEntries rules
      countMode := (Value.get? entries "count_mode").getD ({} : Settings).countMode
      ignore
      defaultExcludes
      language := (Value.get? entries "language").getD ({} : Settings).language }
  | _ => throw .rulesRequired

end LineBudget.Config
