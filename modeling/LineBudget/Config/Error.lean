import LineBudget.Config.Violation
import LineBudget.Files.Tree
import LineBudget.Text.Utf8
import LineBudget.Yaml.Error

/-! Why a configuration cannot be used. -/
namespace LineBudget.Config

/-- The failures of configuration that have a message of their own. -/
inductive ConfigError where
  | notFound
  | unparsable (detail : String)
  | rulesRequired
  | ignoreUnreadable (detail : String)
  deriving DecidableEq, Repr

namespace ConfigError

def code : ConfigError → String
  | .notFound => "err.config_not_found"
  | .unparsable _ => "err.config_parse"
  | .rulesRequired => "validation.rules_required"
  | .ignoreUnreadable _ => "err.ignore_read"

def detail? : ConfigError → Option String
  | .unparsable detail | .ignoreUnreadable detail => some detail
  | .notFound | .rulesRequired => none

def message : ConfigError → String
  | .notFound => "Config file not found. Run 'linecap init' to create one."
  | .unparsable detail => s!"Failed to parse config file: {detail}"
  | .rulesRequired => "\"rules\" section is required"
  | .ignoreUnreadable detail => s!"Failed to read ignore file: {detail}"

end ConfigError

/-- Everything that can go wrong between a configuration's place and its settings. The later cases
are not foreseen by the messages of the program. -/
inductive LoadError where
  | config (error : ConfigError)
  | invalid (violations : List Violation)
  | notUtf8 (fault : Text.Utf8.Fault)
  | scalar (error : Yaml.Error)
  | access (failure : Files.Failure)

end LineBudget.Config
