import LineBudget.Proofs.Command.Ending
import LineBudget.Proofs.Count.Content
import LineBudget.Proofs.Scan.Target

/-! Checks of targets with links. A link is listed like a file and opened like one, so that a run
over an orderly target hangs on where its links lead. -/
namespace LineBudget.Command
open LineBudget.Files LineBudget.Config LineBudget.Scan LineBudget.Count LineBudget.Analysis
open LineBudget.Line (Fits)
open scoped List

/-- A run that comes as far as the walk: its settings are loaded and valid, its patterns compile,
and its target is a directory. -/
structure Prepared (s : Surroundings) (request : CheckRequest) where
  early : Message.Locale
  settings : Settings
  given : Ignore.Rules
  place : Path
  root : Node
  named : Message.Locale.ofName (languageName s request.language) = .ok early
  loaded : (load s request.config).result = .ok settings
  valid : (settings.override request.overrides).validate = .ok ()
  compiled : rules s.disk (settings.override request.overrides) = .ok given
  reached : directoryOfTarget s.disk (Path.ofText request.target) = .ok place
  found : s.disk.node place = .ok root

namespace Prepared
variable {s : Surroundings} {request : CheckRequest} {names : List String} {target : String}
  {content : List UInt8} {readable : Bool} {mode : Count.Mode}

/-- What stands at `names` below the target is an entry of the listing. -/
def Keeps (p : Prepared s request) (names : List String) : Prop :=
  Kept (exclusion p.given) p.root names

variable {p : Prepared s request}

end Prepared

/-- A check of the target that leaves nothing out. -/
def wholeTarget : CheckRequest := { target := "src", overrides := { noDefaultExcludes := true } }

end LineBudget.Command
