import LineBudget.Command.Init

/-! Running a command line. -/
namespace LineBudget.Command
open LineBudget.Files LineBudget.Config

/-- The version of this program, and the platform it describes itself to run on. -/
def version : String := "0.1.0"
def platform : List String := ["3.11.0", "linux", "x86_64"]

def versionOutcome (s : Surroundings) : Outcome :=
  match Message.Locale.ofName (languageName s none) with
  | .error unsupported => failed {} unsupported.message
  | .ok locale =>
    { exit := 0, output := Message.say locale "version.info" (version :: platform) ++ "\n" }

/-- The end of a run, with the questions that were asked and the files after it. -/
structure RunOutcome where
  outcome : Outcome
  asked : List Question := []
  disk : Disk
  /-- A failure that the run does not handle. -/
  escaped : Option Surprise := none

/-- Runs a request. The files of a check finish in the order that is given for their number. -/
def run (s : Surroundings) (request : Request) (answer : Answer) (order : Nat → List Nat) :
    RunOutcome :=
  match request with
  | .check request => { outcome := check s request order, disk := s.disk }
  | .init request =>
    let ended := init s request answer
    { outcome := ended.outcome, asked := ended.asked, disk := ended.disk, escaped := ended.escaped }
  | .version => { outcome := versionOutcome s, disk := s.disk }

end LineBudget.Command
