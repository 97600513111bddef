import LineBudget.Config.IgnoreFile
import LineBudget.Files.Canonical
import LineBudget.Ignore.Match
import LineBudget.Scan.Walk

/-! Scanning a target directory with the patterns of the settings. -/
namespace LineBudget.Scan
open LineBudget.Files LineBudget.Config

inductive ScanError where
  | notDirectory (target : String)
  | unlistable (directory : String) (refusal : Refusal)
  deriving DecidableEq, Repr

namespace ScanError

def message : ScanError → String
  | .notDirectory target => s!"Not a directory: {target}"
  | .unlistable directory _ => s!"Failed to read directory: {directory}"

def path : ScanError → String
  | .notDirectory target => target
  | .unlistable directory _ => directory

def refusal? : ScanError → Option Refusal
  | .notDirectory _ => none
  | .unlistable _ refusal => some refusal

end ScanError

/-- Everything that can go wrong before and while a target is walked. -/
inductive Failure where
  | scan (error : ScanError)
  /-- The target is a link that leads back to itself. -/
  | linkLoop (path : String)
  | access (failure : Files.Failure)
  | load (error : LoadError)
  | pattern (error : Ignore.PatternError)

/-- A target that was scanned, with the notes that were made on the way. -/
structure Scanned where
  notes : List String
  result : Except Failure Listing

/-- The directory that a target leads to, in canonical form. -/
def directoryOfTarget (d : Disk) (target : Path) : Except Failure Path :=
  if Disk.hasNul target then .error (.access .nulInPath)
  else
    let place := Path.ofLocation (d.canonical target)
    match d.node place with
    | .error .tooManyLinks => .error (.linkLoop place.text)
    | _ => match d.isDirectory place with
      | .error failure => .error (.access failure)
      | .ok true => .ok place
      | .ok false => .error (.scan (.notDirectory target.text))

/-- What a run leaves out, by its settings and the ignore file of the current directory. -/
def rules (d : Disk) (s : Settings) : Except Failure Ignore.Rules := do
  let patterns ← (s.excludePatterns d (currentDirectory d)).mapError .load
  (Ignore.Rules.ofTexts patterns).mapError .pattern

def exclusion (rules : Ignore.Rules) : Exclusion := fun names directory =>
  rules.excludes ("/".intercalate names).toList directory

/-- The barrier for a walk that starts at a directory. -/
def barrier (d : Disk) (directory : Path) : Barrier := fun names =>
  d.listingRefused? (directory.append names)

/-- All that a walk from a directory comes by. -/
def visitsFrom (d : Disk) (directory : Path) (excludes : Exclusion) : List Visit :=
  match d.node directory with
  | .ok node => visits (barrier d directory) excludes [] node
  | .error reason => [.unlistable [] reason]

def walk (d : Disk) (directory : Path) (excludes : Exclusion) : Scanned :=
  let (seen, failed) := upToFailure (visitsFrom d directory excludes)
  match failed with
  | some (names, reason) =>
    let place := (directory.append names).text
    ⟨skipNotes seen, .error (.scan (.unlistable place ⟨reason, place⟩))⟩
  | none =>
    let listing := Listing.ofVisits seen
    let (files, directories) := (listing.files.length, listing.directories.length)
    let summary := s!"Scanned {files} files in {directories} directories"
    ⟨skipNotes seen ++ [summary], .ok listing⟩

/-- Scans a target. The target is looked at before the patterns are read. -/
def scan (d : Disk) (s : Settings) (target : Path) : Scanned :=
  match directoryOfTarget d target with
  | .error failure => ⟨[], .error failure⟩
  | .ok directory => match rules d s with
    | .error failure => ⟨[], .error failure⟩
    | .ok rules => walk d directory (exclusion rules)

end LineBudget.Scan
