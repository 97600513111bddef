import LineBudget.Count.File
import LineBudget.Files.Writer
import LineBudget.Message.Template
import LineBudget.Scan.Target

/-! The failures that the program foresees, in the form in which they are reported: with a message,
and with what they are about. -/
namespace LineBudget
open LineBudget.Files

/-- The kinds of foreseen failures. -/
inductive ProblemKind where
  | file
  | fileRead
  | fileWrite
  | lineTooLong
  | scan
  | config
  | violation
  | violations
  | unsupportedLanguage
  deriving DecidableEq, Repr

/-- The more general kind that a kind belongs to. -/
def ProblemKind.parent? : ProblemKind → Option ProblemKind
  | .fileRead | .fileWrite => some .file
  | .lineTooLong => some .fileRead
  | _ => none

/-- A kind with all more general ones. -/
def ProblemKind.ancestry (kind : ProblemKind) : List ProblemKind :=
  kind :: match kind.parent? with
    | none => []
    | some parent => parent :: parent.parent?.toList

/-- What is behind a problem: the kind and the text of a refused request. -/
structure Cause where
  kind : String
  message : String
  deriving DecidableEq, Repr

def Cause.ofRefusal (r : Refusal) : Cause := ⟨r.reason.kind, r.message⟩

/-- Something that went wrong with a file: looking at it, reading it, or writing it. -/
inductive FileUse where
  | any
  | read
  | write
  deriving DecidableEq, Repr

inductive Problem where
  | file (use : FileUse) (message path : Option String) (cause : Option Cause)
  | lineTooLong (path : Option String) (limit : Int)
  | scan (message path : Option String) (cause : Option Cause)
  | config (code message : String) (detail : Option String)
  | violation (code message : String)
  /-- Violations that are reported together, with their codes and messages. -/
  | violations (all : List (String × String))
  | unsupportedLanguage (name : String)
  deriving DecidableEq, Repr

namespace Problem

def kind : Problem → ProblemKind
  | .file .any _ _ _ => .file
  | .file .read _ _ _ => .fileRead
  | .file .write _ _ _ => .fileWrite
  | .lineTooLong _ _ => .lineTooLong
  | .scan _ _ _ => .scan
  | .config _ _ _ => .config
  | .violation _ _ => .violation
  | .violations _ => .violations
  | .unsupportedLanguage _ => .unsupportedLanguage

/-- A message that was given and is not empty, or else a general one. -/
def orElse (message : Option String) (general : String) : String :=
  (message.filter (· ≠ "")).getD general

def message : Problem → String
  | .file _ message _ _ => orElse message "A file I/O error occurred"
  | .lineTooLong path limit => s!"Line exceeds {limit} bytes in file: {path.getD noPath}"
  | .scan message _ _ => orElse message "Failed to scan files"
  | .config _ message _ => message
  | .violation _ message => message
  | .violations all => "; ".intercalate (all.map (·.2))
  | .unsupportedLanguage name => (Message.Unsupported.mk name).message
where
  /-- What stands for a path that is not known. -/
  noPath : String := "None"

def cause? : Problem → Option Cause
  | .file _ _ _ cause | .scan _ _ cause => cause
  | _ => none

/-- The text of a configuration problem in a language: one message with its detail, if there is
one, or the messages of all violations. -/
def localText (locale : Message.Locale) : Problem → Except Message.MissingArgument String
  | .violations all => do
    let texts ← all.mapM fun (code, _) => Message.phrase locale code []
    return "; ".intercalate texts
  | .config code _ detail =>
    Message.phrase locale code ((detail.filter (· ≠ "")).toList)
  | problem => .ok problem.message

def ofConfigError (e : Config.ConfigError) : Problem := .config e.code e.message e.detail?

def ofViolations (all : List Config.Violation) : Problem :=
  .violations (all.map fun v => (v.code, v.message))

def ofScanError (e : Scan.ScanError) : Problem :=
  .scan (some e.message) (some e.path) (e.refusal?.map Cause.ofRefusal)

end Problem

/-- A failure that the program does not foresee, in the form in which it is still reported. -/
structure Surprise where
  kind : String
  message : String
  /-- What is behind it, where that is known. -/
  reason : Option String := none
  deriving DecidableEq, Repr

/-- A failed stage, foreseen or not. -/
inductive Setback where
  | problem (problem : Problem)
  | surprise (surprise : Surprise)
  deriving DecidableEq, Repr

namespace Setback

def ofAccess : Files.Failure → Setback
  | .nulInPath => .surprise { kind := "ValueError", message := "embedded null byte" }
  | .refused refusal =>
    .surprise { kind := refusal.reason.kind, message := refusal.message }

def ofLoadError : Config.LoadError → Setback
  | .config error => .problem (.ofConfigError error)
  | .invalid violations => .problem (.ofViolations violations)
  | .notUtf8 fault => .surprise { kind := "UnicodeDecodeError", message := fault.message }
  | .scalar error => .surprise { kind := error.kind, message := error.message }
  | .access failure => ofAccess failure

def ofPatternError (e : Ignore.PatternError) : Setback :=
  let kind := match e with
    | .reversedRange _ _ _ => "error"
    | .empty _ | .danglingEscape _ _ => "GitIgnorePatternError"
  .surprise { kind, message := e.message, reason := e.reason? }

def ofScanFailure : Scan.Failure → Setback
  | .scan error => .problem (.ofScanError error)
  | .linkLoop path =>
    .surprise { kind := "RuntimeError", message := s!"Symlink loop from {Text.literal path}" }
  | .access failure => ofAccess failure
  | .load error => ofLoadError error
  | .pattern error => ofPatternError error

def ofCountFailure (e : Count.Failure) : Setback :=
  match e with
  | .unreadable path refusal =>
    .problem (.file .read (some e.message) (some path) (some (Cause.ofRefusal refusal)))
  | .lineTooLong path limit => .problem (.lineTooLong (some path) limit)
  | .nulInPath _ => ofAccess .nulInPath

def ofWriteError : Files.WriteError → Setback
  | .mode error => .surprise { kind := "ValueError", message := error.message }
  | .nulInPath => ofAccess .nulInPath
  | .refused path refusal => .problem (failed path (Cause.ofRefusal refusal))
  | .notWritable path => .problem (failed path ⟨"UnsupportedOperation", "not writable"⟩)
where
  failed (path : String) (cause : Cause) : Problem :=
    .file .write (some s!"Failed to write to file: {path}") (some path) (some cause)

def ofBadMode (e : Config.BadMode) : Setback :=
  .surprise { kind := "ValueError", message := e.message }

end Setback
end LineBudget
