import LineBudget.Command.Check
import LineBudget.Files.Writer

/-! Writing a configuration file with the default settings. -/
namespace LineBudget.Command
open LineBudget.Files LineBudget.Config

def template : String := "# linecap configuration file

rules:
  max_lines_per_file: 300
  max_lines_per_directory: 2000
  warning_threshold: 10

count_mode: all

# ignore:
#   - \"vendor/**\"
# default_excludes: true
# language: en
"

/-- A question to the user, to be answered with yes or no. -/
structure Question where
  name : String
  message : String
  default : Bool
  deriving DecidableEq, Repr

/-- The user's answer; none if the user broke off. -/
abbrev Answer := Option Bool

inductive Written where
  | created
  | overwritten
  | cancelled
  deriving DecidableEq, Repr

def Written.key : Written → String
  | .created => "init.created"
  | .overwritten => "init.overwritten"
  | .cancelled => "init.cancelled"

/-- A file that was written or left alone, and the questions that were asked. -/
structure Writing (σ : Type) where
  result : Except Setback (Written × σ)
  asked : List Question := []

def overwriteQuestion (locale : Message.Locale) : Question :=
  ⟨"overwrite", Message.say locale "init.overwrite" [], false⟩

/-- Writes the template. A file that exists is replaced only by force or if the user agrees. -/
def writeTemplate {σ : Type} (writer : Writer σ) (state : σ) (locale : Message.Locale)
    (force : Bool) (answer : Answer) : Writing σ :=
  let write (done : Written) : Except Setback (Written × σ) :=
    match writer.write state template "w" with
    | .ok next => .ok (done, next)
    | .error e => .error (.ofWriteError e)
  match writer.present state with
  | .error failure => { result := .error (.ofAccess failure) }
  | .ok false => { result := write .created }
  | .ok true =>
    if force then { result := write .overwritten }
    else
      let asked := [overwriteQuestion locale]
      if answer = some true then { result := write .overwritten, asked }
      else { result := .ok (.cancelled, state), asked }

/-- The end of the command, and what it left on the disk. -/
structure InitOutcome where
  outcome : Outcome
  asked : List Question := []
  disk : Disk
  /-- A failure that the command does not handle. -/
  escaped : Option Surprise := none

/-- A run that a failure leaves unhandled ends with this code. -/
def escapeCode : Nat := 1

def writeFailure (locale : Message.Locale) (problem : Problem) : String :=
  Message.say locale "err.write_config" [problem.message]

/-- How the command ends after a writing. A failure that is no foreseen problem is not handled. -/
def conclude (locale : Message.Locale) (before : Disk) (writing : Writing Disk) : InitOutcome :=
  match writing.result with
  | .error (.problem problem) => {
      outcome := failed {} (writeFailure locale problem), asked := writing.asked, disk := before }
  | .error (.surprise surprise) => {
      outcome := { exit := escapeCode }, asked := writing.asked, disk := before
      escaped := some surprise }
  | .ok (written, disk) => {
      outcome := { exit := 0, output := Message.say locale written.key [] ++ "\n" }
      asked := writing.asked
      disk }

def init (s : Surroundings) (request : InitRequest) (answer : Answer) : InitOutcome :=
  match Message.Locale.ofName (languageName s request.language) with
  | .error unsupported => { outcome := failed {} unsupported.message, disk := s.disk }
  | .ok locale =>
    conclude locale s.disk
      (writeTemplate (Writer.file (Path.ofText preferredName)) s.disk locale request.force answer)

end LineBudget.Command
