import LineBudget.Proofs.Command.Links
import LineBudget.Proofs.Scan.Unforeseen

/-! How a check reports that its target cannot be scanned: as a problem where the scan has a failure
of its own for it, and else as an unexpected error. -/
namespace LineBudget.Command
open LineBudget.Files LineBudget.Config LineBudget.Scan
open scoped List

/-- A check comes to the scan of this target with these settings. -/
structure Scans (s : Surroundings) (request : CheckRequest) (settings : Settings) (target : Path) :
    Prop where
  named : ∃ early, Message.Locale.ofName (languageName s request.language) = .ok early
  loaded : ∃ c, (load s request.config).result = .ok c ∧ c.override request.overrides = settings
  valid : settings.validate = .ok ()
  target : Path.ofText request.target = target

variable {s : Surroundings} {request : CheckRequest} {settings : Settings} {target : Path}
  {given : Ignore.Rules} {failure : Scan.Failure}

/-- A scan that failed ends the check. -/
theorem Scans.ends (scans : Scans s request settings target)
    (compiled : rules s.disk settings = .ok given)
    (failed : (scan s.disk settings target).result = .error failure) (order : Nat → List Nat) :
    ∃ notes locale, check s request order = setBack notes locale (.ofScanFailure failure) := by
  obtain ⟨⟨early, named⟩, ⟨c, loaded, rfl⟩, valid, rfl⟩ := scans
  obtain ⟨user, read⟩ := rules_patterns compiled
  have ended : (examine s.disk (c.override request.overrides) (Path.ofText request.target)
      order).result = .error (.ofScanFailure failure) := by
    rw [examine, Stage.andThen_of_ok (by rw [read]; rfl)]
    exact Stage.andThen_of_error (by rw [failed]; rfl)
  simp only [check, named, loaded, checkWith, Settings.apply, valid, ended]
  exact ⟨_, _, rfl⟩

theorem ofScanFailure_unforeseen {d : Disk} (unforeseen : Unforeseen d target failure) :
    ∃ surprise, Setback.ofScanFailure failure = .surprise surprise := by
  cases unforeseen with
  | nul | circle | tooLong | denied => exact ⟨_, rfl⟩

/-- With patterns that compile, a scan lists its files, or it fails with an error of its own, or
something about its target is not foreseen: a NUL, links that lead in a circle, a name or path that
is too long, or a directory on the way that cannot be searched. That is so of every link whose target
is itself and of every name that is too long, where the way there can be searched, and of every name
in a directory that cannot be searched. What is missing, no directory, or below what is no directory,
is an error of the scan. A check reports the errors of the scan as problems, and everything that is
not foreseen as an unexpected error. -/
theorem check_unscanned (d : Disk) (settings : Settings) (target : Path) (given : Ignore.Rules)
    (compiled : rules d settings = .ok given) :
    let scanned := (scan d settings target).result
    ((∃ listing, scanned = .ok listing) ∨ (∃ e, scanned = .error (.scan e)) ∨
      ∃ failure, Unforeseen d target failure) ∧
    (∀ failure, Unforeseen d target failure →
      scanned = .error failure ∧ ∀ e, failure ≠ .scan e) ∧
    (Disk.hasNul target = false → NoDirectory d target →
      scanned = .error (.scan (.notDirectory target.text))) ∧
    (∀ above name entries access, d.root.LegalNames → target.parts = above ++ [name] →
      d.root.find? (d.start target ++ above) = some (.directory entries access) →
      let names := d.start target ++ target.parts
      let place := (Path.ofLocation names).text
      (entries.lookup name = some (.link name) → d.root.passable names = true →
        place.utf8ByteSize < pathLimit → scanned = .error (.linkLoop place)) ∧
      (nameLimit < name.utf8ByteSize → d.root.passable names = true → '\x00' ∉ name.toList →
        scanned = .error (.access (.refused ⟨.nameTooLong, place⟩))) ∧
      (access.searchable = false → name ≠ "" → name ≠ ".." → '\x00' ∉ name.toList →
        place.utf8ByteSize < pathLimit →
        scanned = .error (.access (.refused ⟨.permissionDenied, place⟩)))) ∧
    ∀ s request order, s.disk = d → Scans s request settings target →
      (∀ e, scanned = .error (.scan e) →
        ∃ notes locale, check s request order = setBack notes locale (.problem (.ofScanError e))) ∧
      ∀ failure, Unforeseen d target failure →
        ∃ notes locale surprise,
          check s request order = setBack notes locale (.surprise surprise) := by
  intro scanned
  have failed {failure : Scan.Failure} (unforeseen : Unforeseen d target failure) :
      scanned = .error failure := scan_unreached (directoryOfTarget_unforeseen unforeseen)
  refine ⟨scan_cases compiled target, ?_, ?_, ?_, ?_⟩
  · intro failure unforeseen
    refine ⟨failed unforeseen, ?_⟩
    rintro e rfl
    cases unforeseen
  · intro clean none
    exact scan_unreached (directoryOfTarget_noDirectory clean none)
  · intro above name entries access legal parts found names place
    refine ⟨?_, ?_, ?_⟩
    · intro entry passable short
      exact failed (.of_selfLink legal parts found entry passable short)
    · intro long passable clean
      exact failed (.of_long legal parts found passable long clean)
    · intro closed given notUp clean short
      exact failed (.of_closed legal parts found closed given notUp clean short)
  · rintro s request order rfl scans
    constructor
    · intro e error
      exact scans.ends compiled error order
    · intro failure unforeseen
      obtain ⟨notes, locale, ended⟩ := scans.ends compiled (failed unforeseen) order
      obtain ⟨surprise, same⟩ := ofScanFailure_unforeseen unforeseen
      exact ⟨notes, locale, surprise, same ▸ ended⟩

/-- A disk with a link whose target is itself. -/
def looping : Surroundings := configured [("loop", .link "loop")]

/-- A check of a target there that leaves nothing out. -/
def loopingTarget (target : String) : CheckRequest := { wholeTarget with target }

theorem looping_compiled : rules looping.disk (({} : Settings).override wholeTarget.overrides) =
    .ok ⟨[]⟩ := by
  have absent : [("loop", Node.link "loop")].lookup ignoreName = none := by decide
  have clean : Disk.hasNul (.ofLocation [ignoreName]) = false := by decide
  exact (rules_unfiltered (d := looping.disk) rfl rfl (configured_unignored absent) clean).2

theorem looping_scans (target : String) : Scans looping (loopingTarget target)
    (({} : Settings).override wholeTarget.overrides) (Path.ofText target) where
  named := ⟨.en, by cbv⟩
  loaded := ⟨{}, configured_load _, rfl⟩
  valid := rfl
  target := rfl

/-- A target that is missing is reported as a problem of the scan. The scan of the link ends in a
way that is not foreseen. -/
theorem check_unscanned_missing :
    (∃ notes locale, check looping (loopingTarget "gone") List.range =
      setBack notes locale (.problem (.ofScanError (.notDirectory "gone")))) ∧
    (scan looping.disk (({} : Settings).override wholeTarget.overrides)
      (Path.ofText "loop")).result = .error (.linkLoop "/loop") := by
  have legal : looping.disk.root.LegalNames := by
    have names : LegalName preferredName ∧ LegalName "loop" := by decide
    refine .directory (by simpa using names) ?_
    simp only [List.forall_mem_cons, List.not_mem_nil, false_implies, implies_true, and_true]
    exact ⟨.file .., .link _⟩
  constructor
  · have none : NoDirectory looping.disk (Path.ofText "gone") := .missing (by cbv)
    obtain ⟨_, _, other, _, reported⟩ := check_unscanned looping.disk
      (({} : Settings).override wholeTarget.overrides) (Path.ofText "gone") ⟨[]⟩ looping_compiled
    exact (reported looping (loopingTarget "gone") List.range rfl (looping_scans "gone")).1 _
      (other (by cbv) none)
  · have target : Path.ofText "loop" = ⟨0, ["loop"]⟩ := by cbv
    obtain ⟨_, _, _, classes, _⟩ := check_unscanned looping.disk
      (({} : Settings).override wholeTarget.overrides) (Path.ofText "loop") ⟨[]⟩ looping_compiled
    have start : looping.disk.start ⟨0, ["loop"]⟩ = [] := rfl
    have short : (Path.ofLocation ["loop"]).text.utf8ByteSize < pathLimit := by decide
    rw [target] at classes ⊢
    simp only [start, List.nil_append] at classes
    exact (classes [] "loop" looping.disk.root.entries {} legal rfl rfl).1 rfl
      (Node.passable_single ..) short

/-- A link whose target is itself is reported as an unexpected error, although the patterns compile
and no ignore file is there. -/
theorem check_unscanned_loop :
    rules looping.disk (({} : Settings).override wholeTarget.overrides) = .ok ⟨[]⟩ ∧
    (¬ ∃ listing, (scan looping.disk (({} : Settings).override wholeTarget.overrides)
      (Path.ofText "loop")).result = .ok listing) ∧
    (¬ ∃ e, (scan looping.disk (({} : Settings).override wholeTarget.overrides)
      (Path.ofText "loop")).result = .error (.scan e)) ∧
    ∃ notes locale, check looping (loopingTarget "loop") List.range = setBack notes locale
      (.surprise { kind := "RuntimeError", message := "Symlink loop from '/loop'" }) := by
  have unreached : directoryOfTarget looping.disk (Path.ofText "loop") =
      .error (.linkLoop "/loop") := by cbv
  have failed : (scan looping.disk (({} : Settings).override wholeTarget.overrides)
      (Path.ofText "loop")).result = .error (.linkLoop "/loop") := by
    simp only [scan, unreached]
  have message : Setback.ofScanFailure (.linkLoop "/loop") =
      .surprise { kind := "RuntimeError", message := "Symlink loop from '/loop'" } := by
    have quoted : Text.literal "/loop" = "'/loop'" := by decide +kernel
    rw [Setback.ofScanFailure, quoted]
    rfl
  refine ⟨looping_compiled, ?_, ?_, ?_⟩
  · rintro ⟨listing, scanned⟩
    cases failed.symm.trans scanned
  · rintro ⟨e, error⟩
    cases failed.symm.trans error
  · rw [← message]
    exact (looping_scans "loop").ends looping_compiled failed List.range

end LineBudget.Command
