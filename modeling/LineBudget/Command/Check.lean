import LineBudget.Command.Arguments
import LineBudget.Command.Diagnostics
import LineBudget.Config.Load
import LineBudget.Count.Batch
import LineBudget.Problem.Basic

/-! The check of a directory: configuration, scan, counting, analysis and report. -/
namespace LineBudget.Command
open LineBudget.Files LineBudget.Config

structure Outcome where
  exit : Nat
  output : String := ""
  diagnostics : Diagnostics := {}

def languageVariable : String := "LINECAP_LANG"

/-- The language that the user chose: by option, then by variable. Empty ones count as not given. -/
def chosenLanguage? (s : Surroundings) (given : Option String) : Option String :=
  (given.filter (· ≠ "")).or (s.lookupVariable languageVariable)

/-- The name of the language of a run, as far as the configuration has no say. -/
def languageName (s : Surroundings) (given : Option String) : String :=
  (chosenLanguage? s given).getD Message.Locale.en.name

/-- Failed runs end with this code, which no report ends with. -/
def failureCode : Nat := 2

def failed (d : Diagnostics) (message : String) : Outcome :=
  { exit := failureCode, diagnostics := d.error message }

def problemText (locale : Message.Locale) (problem : Problem) : String :=
  match problem.kind with
  | .config | .violations => match problem.localText locale with
    | .ok text => text
    | .error e => e.message
  | .scan => Message.say locale "err.scan" [problem.message]
  | _ => Message.say locale "err.count" [problem.message]

def setBack (d : Diagnostics) (locale : Message.Locale) (setback : Setback) : Outcome :=
  match setback with
  | .problem problem =>
    let ended := failed d (problemText locale problem)
    match problem.cause? with
    | some cause => { ended with
        diagnostics := ended.diagnostics.note s!"Caused by: {cause.kind}: {cause.message}" }
    | none => ended
  | .surprise surprise =>
    let ended := failed d (Message.say locale "err.unexpected" [surprise.kind, surprise.message])
    match surprise.reason with
    | some reason => { ended with
        diagnostics := ended.diagnostics.note s!"Caused by: {reason}" }
    | none => ended

/-- The integers of limits that were validated. -/
def limits? (s : Settings) : Option Analysis.Limits :=
  match s.rules.maxFileLines, s.rules.maxDirectoryLines, s.rules.warningThreshold with
  | .int file, .int directory, .int percentage => some ⟨file, directory, percentage⟩
  | _, _, _ => none

/-- The language of the messages once the configuration is known: that of the configuration,
unless the user chose one. -/
def finalLocale (s : Surroundings) (given : Option String) (early : Message.Locale)
    (settings : Settings) : Message.Locale :=
  if (chosenLanguage? s given).isSome then early
  else match settings.language with
    | .text name => match Message.Locale.ofName name with
      | .ok locale => locale
      | .error _ => early
    | _ => early

/-- A stage of the run: its result or its failure, with the notes made on the way. -/
structure Stage (α : Type) where
  notes : List String
  result : Except Setback α

namespace Stage

def ofExcept {α : Type} (result : Except Setback α) : Stage α := ⟨[], result⟩

/-- Goes on with the result of a stage, after its notes. -/
def andThen {α β : Type} (first : Stage α) (next : α → Stage β) : Stage β :=
  match first.result with
  | .error setback => ⟨first.notes, .error setback⟩
  | .ok value => ⟨first.notes ++ (next value).notes, (next value).result⟩

end Stage

/-- Settings that do not say what a check needs. Validated ones always do. -/
def unusable : Setback := .surprise { kind := "TypeError", message := "unusable settings" }

def mostWorkers : Nat := 64

def countListing (d : Disk) (directory : Path) (listing : Scan.Listing) (mode : Count.Mode)
    (order : List Nat) : Stage (List Count.FileCount) :=
  let paths := listing.files.map fun e => (directory.append e.names).text
  let batch := Count.countAll (fun path => Count.countFile d path mode Count.lineLimit)
    paths mode.name (some (min paths.length mostWorkers : Nat)) order
  ⟨batch.notes, (batch.outcome.mapError Setback.ofCountFailure).map fun counts =>
    (counts.zip listing.files).map fun (count, e) => { count with path := e.path }⟩

def resultNote (r : Analysis.Report) : String :=
  s!"{r.total} results: {r.errors} errors, {r.warnings} warnings, {r.passed} passed"

/-- The report on a target and the keys of the warnings about the settings. Files finish in the
given order. -/
def examine (d : Disk) (settings : Settings) (target : Path) (order : Nat → List Nat) :
    Stage (Analysis.Report × List String) :=
  Stage.ofExcept ((settings.userPatterns d (currentDirectory d)).mapError Setback.ofLoadError)
    |>.andThen fun user =>
  let scanned := Scan.scan d settings target
  Stage.mk scanned.notes (scanned.result.mapError Setback.ofScanFailure) |>.andThen fun listing =>
  Stage.ofExcept (settings.mode.mapError Setback.ofBadMode) |>.andThen fun mode =>
  let directory := Path.ofLocation (d.canonical target)
  (countListing d directory listing mode (order listing.files.length)).andThen fun counts =>
  match limits? settings with
  | none => .ofExcept (.error unusable)
  | some limits =>
    let report := Analysis.analyze counts listing.directories mode limits
    ⟨[resultNote report], .ok (report, user.warnings)⟩

/-- A report with an integer that cannot be written. -/
def unwritable : Setback := .surprise {
  kind := "ValueError"
  message := s!"{Number.beyondMaxDigits}; {Number.increaseMaxDigits}" }

/-- The exit code of a finished check: one if a limit was passed by more than its threshold. -/
def reportCode (report : Analysis.Report) : Nat := if 0 < report.errors then 1 else 0

def checkWith (s : Surroundings) (request : CheckRequest) (order : Nat → List Nat)
    (d : Diagnostics) (locale : Message.Locale) (settings : Settings) : Outcome :=
  let (settings, checked) := settings.apply (some request.overrides)
  match checked with
  | .error violations => setBack d locale (.problem (.ofViolations violations))
  | .ok () =>
    let examined := examine s.disk settings (Path.ofText request.target) order
    let d := d.notes examined.notes
    match examined.result with
    | .error setback => setBack d locale setback
    | .ok (report, warnings) =>
      let warnings := warnings.map fun key => Message.say locale key []
      if Report.isWritable request.format report then
        { exit := reportCode report
          output := Report.render request.format locale false report warnings
          diagnostics := d }
      else setBack d locale unwritable

/-- Runs a check. Neither output goes to a terminal. -/
def check (s : Surroundings) (request : CheckRequest) (order : Nat → List Nat) : Outcome :=
  let d : Diagnostics := { verbose := request.verbose }
  match Message.Locale.ofName (languageName s request.language) with
  | .error unsupported => failed d unsupported.message
  | .ok early =>
    let loaded := load s request.config
    let d := d.notes loaded.notes
    match loaded.result with
    | .error e => setBack d early (.ofLoadError e)
    | .ok settings =>
      checkWith s request order d (finalLocale s request.language early settings) settings

end LineBudget.Command
