import LineBudget.Command.Run
import LineBudget.Files.Archive

/-! The command line. A check reads the tree that holds its target as a tar archive from standard
input; `init` works on the configuration file of the current directory. -/
namespace LineBudget.Command
open LineBudget.Files LineBudget.Config

/-- All octets of a stream. -/
partial def readAll (stream : IO.FS.Stream) (done : ByteArray) : IO ByteArray := do
  let part ← stream.read 65536
  if part.isEmpty then return done else readAll stream (done ++ part)

/-- The variables that matter and are set. -/
def setVariables : IO (List (String × String)) :=
  [languageVariable, configVariable].filterMapM fun name => do
    return (← IO.getEnv name).map (name, ·)

/-- The configuration file of the current directory, alone on a disk. -/
def configurationOnly : IO Disk := do
  try
    let octets ← IO.FS.readBinFile preferredName
    return ({} : Disk).putFile [preferredName] octets.toList true
  catch _ => return {}

/-- The disk that a request works on. -/
def diskFor : Request → IO Disk
  | .check _ => do return Archive.disk (← readAll (← IO.getStdin) .empty).toList
  | .init _ => configurationOnly
  | .version => return {}

/-- Asks a question. Anything that does not begin like yes is a no. -/
def ask (question : Question) : IO Answer := do
  IO.print (question.message ++ " [y/N] ")
  let line ← (← IO.getStdin).getLine
  return some (line.startsWith "y" || line.startsWith "Y")

/-- Puts the configuration file where it was changed. -/
def keepConfiguration (before after : Disk) : IO Unit := do
  let place := Path.ofText preferredName
  match before.read place, after.read place with
  | .ok old, .ok new =>
    if old ≠ new then IO.FS.writeBinFile preferredName (ByteArray.mk new.toArray)
  | _, .ok new => IO.FS.writeBinFile preferredName (ByteArray.mk new.toArray)
  | _, _ => return

/-- Runs a request, and once more with the answer if it asks a question. -/
def perform (request : Request) : IO UInt32 := do
  let s : Surroundings := ⟨← diskFor request, ← setVariables⟩
  let unanswered := run s request none List.range
  let ended ← match unanswered.asked with
    | [] => pure unanswered
    | question :: _ => pure (run s request (← ask question) List.range)
  keepConfiguration s.disk ended.disk
  IO.print ended.outcome.output
  IO.eprint ended.outcome.diagnostics.written
  if let some surprise := ended.escaped then IO.eprintln s!"{surprise.kind}: {surprise.message}"
  return UInt32.ofNat ended.outcome.exit

end LineBudget.Command

def main (arguments : List String) : IO UInt32 := do
  match LineBudget.Command.Request.ofArguments arguments with
  | .ok request => LineBudget.Command.perform request
  | .error e =>
    IO.eprintln e.message
    return 2
