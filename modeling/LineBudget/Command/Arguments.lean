import LineBudget.Config.Overrides
import LineBudget.Number.Numeral
import LineBudget.Report.Format

/-! Command lines. Options and arguments may be mixed; the last of a repeated option counts. -/
namespace LineBudget.Command

structure OptionSpec where
  long : String
  short : Option Char := none
  takesValue : Bool
  deriving DecidableEq, Repr

/-- Options as they were found, by their long names, and the other arguments. -/
structure Parsed where
  options : List (String × String) := []
  arguments : List String := []
  deriving DecidableEq, Repr

inductive UsageError where
  | noSuchOption (name : String)
  | missingValue (name : String)
  | unwantedValue (name : String)
  | badValue (name value : String)
  | extraArgument (argument : String)
  | noCommand
  | noSuchCommand (name : String)
  deriving DecidableEq, Repr

def UsageError.message : UsageError → String
  | .noSuchOption name => s!"No such option: {name}"
  | .missingValue name => s!"Option {name} requires an argument."
  | .unwantedValue name => s!"Option {name} does not take a value."
  | .badValue name value => s!"Invalid value for {name}: {Text.literal value}"
  | .extraArgument argument => s!"Got unexpected extra argument ({argument})"
  | .noCommand => "Missing command."
  | .noSuchCommand name => s!"No such command {Text.literal name}."

namespace Parsed

def value? (p : Parsed) (long : String) : Option String := p.options.reverse.lookup long

def values (p : Parsed) (long : String) : List String :=
  p.options.filterMap fun (name, value) => if name = long then some value else none

def has (p : Parsed) (long : String) : Bool := p.options.any (·.1 = long)

end Parsed

/-- One option that was recognised, with the value that was attached to it. -/
structure Found where
  spec : OptionSpec
  attached : Option String
  deriving DecidableEq, Repr

/-- An option written out, perhaps with a value after an equals sign. -/
def longOption? (specs : List OptionSpec) (argument : String) : Option Found :=
  let name := argument.toList.takeWhile (· ≠ '=')
  let rest := argument.toList.drop name.length
  (specs.find? fun s => s.long = String.ofList name).map fun spec =>
    ⟨spec, if rest.isEmpty then none else some (String.ofList rest.tail)⟩

/-- Letters after one hyphen. The first that takes a value has the rest of the argument for it. -/
def shortOptions (specs : List OptionSpec) : List Char → Except UsageError (List Found)
  | [] => .ok []
  | c :: rest =>
    match specs.find? fun s => s.short = some c with
    | none => .error (.noSuchOption ("-" ++ c.toString))
    | some spec =>
      if spec.takesValue then
        .ok [⟨spec, if rest.isEmpty then none else some (String.ofList rest)⟩]
      else (shortOptions specs rest).map (⟨spec, none⟩ :: ·)

def optionsIn (specs : List OptionSpec) (argument : String) : Except UsageError (List Found) :=
  match longOption? specs argument with
  | some found =>
    if found.attached.isSome && !found.spec.takesValue then
      .error (.unwantedValue found.spec.long)
    else .ok [found]
  | none =>
    if argument.startsWith "--" then .error (.noSuchOption argument)
    else shortOptions specs (argument.toList.drop 1)

/-- Adds options. The last one takes its value from the arguments that follow, if it needs one. -/
def addOptions (p : Parsed) (rest : List String) :
    List Found → Except UsageError (Parsed × List String)
  | [] => .ok (p, rest)
  | found :: others =>
    let add (value : String) : Parsed :=
      { p with options := p.options ++ [(found.spec.long, value)] }
    if found.spec.takesValue then
      match found.attached, rest with
      | some value, rest => addOptions (add value) rest others
      | none, value :: rest => addOptions (add value) rest others
      | none, [] => .error (.missingValue found.spec.long)
    else addOptions (add "") rest others

/-- An argument with a hyphen and something after it holds options. -/
def isOption (argument : String) : Bool :=
  argument.startsWith "-" && argument ≠ "-"

/-- Reads arguments up to the end; after two hyphens none is an option. -/
def parseFrom (specs : List OptionSpec) (fuel : Nat) (p : Parsed) (rest : List String) :
    Except UsageError Parsed :=
  match fuel, rest with
  | 0, _ | _, [] => .ok p
  | fuel + 1, argument :: rest =>
    if argument = "--" then .ok { p with arguments := p.arguments ++ rest }
    else if isOption argument then
      match optionsIn specs argument with
      | .error e => .error e
      | .ok found => match addOptions p rest found with
        | .error e => .error e
        | .ok (p, rest) => parseFrom specs fuel p rest
    else parseFrom specs fuel { p with arguments := p.arguments ++ [argument] } rest

def parse (specs : List OptionSpec) (arguments : List String) : Except UsageError Parsed :=
  parseFrom specs (arguments.length + 1) {} arguments

/-! ### The commands -/

structure CheckRequest where
  target : String := "."
  config : Option String := none
  format : Report.Format := .text
  overrides : Config.Overrides := {}
  language : Option String := none
  verbose : Bool := false

structure InitRequest where
  force : Bool := false
  language : Option String := none
  deriving DecidableEq, Repr

inductive Request where
  | check (request : CheckRequest)
  | init (request : InitRequest)
  | version

def checkOptions : List OptionSpec := [
  ⟨"--config", some 'c', true⟩, ⟨"--format", some 'f', true⟩,
  ⟨"--max-lines-per-file", none, true⟩, ⟨"--max-lines-per-directory", none, true⟩,
  ⟨"--warning-threshold", none, true⟩, ⟨"--count-mode", none, true⟩, ⟨"--ignore", none, true⟩,
  ⟨"--no-default-excludes", none, false⟩, ⟨"--lang", none, true⟩, ⟨"--verbose", some 'v', false⟩]

def initOptions : List OptionSpec := [⟨"--force", none, false⟩, ⟨"--lang", none, true⟩]

def integerOption (p : Parsed) (long : String) : Except UsageError (Option Value) :=
  match p.value? long with
  | none => .ok none
  | some text => match Number.readInteger 10 text.toList with
    | .ok n => .ok (some (.int n))
    | .error _ => .error (.badValue long text)

/-- An option that must name one of some things. -/
def choice (p : Parsed) (long : String) (ofName? : String → Option α) :
    Except UsageError (Option α) :=
  match p.value? long with
  | none => .ok none
  | some text => match ofName? text with
    | some choice => .ok (some choice)
    | none => .error (.badValue long text)

def singleArgument (p : Parsed) : Except UsageError (Option String) :=
  match p.arguments with
  | [] => .ok none
  | [argument] => .ok (some argument)
  | _ :: extra :: _ => .error (.extraArgument extra)

def noArguments (p : Parsed) : Except UsageError Unit :=
  match p.arguments with
  | [] => .ok ()
  | extra :: _ => .error (.extraArgument extra)

def checkRequest (p : Parsed) : Except UsageError CheckRequest := do
  let target ← singleArgument p
  let format ← choice p "--format" Report.Format.ofName?
  let mode ← choice p "--count-mode" Count.Mode.ofName?
  let ignore := p.values "--ignore"
  return {
    target := target.getD "."
    config := p.value? "--config"
    format := format.getD .text
    overrides := {
      maxFileLines := ← integerOption p "--max-lines-per-file"
      maxDirectoryLines := ← integerOption p "--max-lines-per-directory"
      warningThreshold := ← integerOption p "--warning-threshold"
      countMode := mode.map fun m => .text m.name
      ignore := if ignore.isEmpty then none else some ignore
      noDefaultExcludes := p.has "--no-default-excludes" }
    language := p.value? "--lang"
    verbose := p.has "--verbose" }

def initRequest (p : Parsed) : Except UsageError InitRequest := do
  noArguments p
  return { force := p.has "--force", language := p.value? "--lang" }

/-- What a command line asks for. No option stands before the command. -/
def Request.ofArguments (arguments : List String) : Except UsageError Request :=
  let arguments := match arguments with
    | "--" :: rest => rest
    | all => all
  match arguments with
  | [] => .error .noCommand
  | "check" :: rest => do return .check (← checkRequest (← parse checkOptions rest))
  | "init" :: rest => do return .init (← initRequest (← parse initOptions rest))
  | "version" :: rest => do
    noArguments (← parse [] rest)
    return .version
  | name :: _ => .error (.noSuchCommand name)

end LineBudget.Command
