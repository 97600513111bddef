import LineBudget.Proofs.Analysis.Tally
import LineBudget.Proofs.Command.Examine
import LineBudget.Proofs.Config.Validity

/-! How a run of a check ends: with a failed stage and no output, or with the report on all files
and directories that were listed. -/
namespace LineBudget.Command
open LineBudget.Files LineBudget.Config LineBudget.Scan LineBudget.Count LineBudget.Analysis
open scoped List

theorem Stage.andThen_of_error {α β : Type} {first : Stage α} {next : α → Stage β}
    {setback : Setback} (ended : first.result = .error setback) :
    (first.andThen next).result = .error setback := by
  rw [Stage.andThen, ended]

theorem exists_limits {settings : Settings} (valid : settings.Valid) :
    ∃ limits, limits? settings = some limits := by
  obtain ⟨file, fileGiven, _⟩ := valid.file
  obtain ⟨directory, directoryGiven, _⟩ := valid.directory
  obtain ⟨percentage, percentageGiven, _⟩ := valid.percentage
  exact ⟨⟨file, directory, percentage⟩, by rw [limits?, fileGiven, directoryGiven, percentageGiven]⟩

/-- Some stage between the settings and the report fails, on what the stages before it hand on. -/
inductive Unexamined (d : Disk) (settings : Settings) (target : Path) : Prop
  | patterns {e : LoadError} (failed : settings.userPatterns d (currentDirectory d) = .error e)
  | scan {failure : Scan.Failure} (failed : (scan d settings target).result = .error failure)
  | count {listing : Listing} {mode : Count.Mode} {e : Entry} {failure : Count.Failure}
    (scanned : (scan d settings target).result = .ok listing) (chosen : settings.mode = .ok mode)
    (listed : e ∈ listing.files) (failed : countEntry d target mode e = .error failure)

/-- What the stages between the settings and the report hand on where none of them fails. -/
structure Examined (d : Disk) (settings : Settings) (target : Path) where
  user : UserPatterns
  listing : Listing
  mode : Count.Mode
  limits : Limits
  counts : List FileCount
  read : settings.userPatterns d (currentDirectory d) = .ok user
  scanned : (scan d settings target).result = .ok listing
  chosen : settings.mode = .ok mode
  limited : limits? settings = some limits
  counted : counts.map .ok = listing.files.map (countEntry d target mode)

def Examined.report {d : Disk} {settings : Settings} {target : Path}
    (x : Examined d settings target) : Report :=
  analyze (located x.counts x.listing.files) x.listing.directories x.mode x.limits

/-- Some stage of a run fails, from the choice of a language to the writing of the report. -/
inductive Fails (s : Surroundings) (request : CheckRequest) : Prop
  | language {e : Message.Unsupported}
    (failed : Message.Locale.ofName (languageName s request.language) = .error e)
  | load {e : LoadError} (failed : (load s request.config).result = .error e)
  | validate {settings : Settings} {violations : List Violation}
    (loaded : (load s request.config).result = .ok settings)
    (failed : (settings.override request.overrides).validate = .error violations)
  | examine {settings : Settings} (loaded : (load s request.config).result = .ok settings)
    (failed : Unexamined s.disk (settings.override request.overrides) (Path.ofText request.target))
  | report {settings : Settings} (loaded : (load s request.config).result = .ok settings)
    (x : Examined s.disk (settings.override request.overrides) (Path.ofText request.target))
    (failed : Report.isWritable request.format x.report = false)

/-- What the stages of a run hand on where none of them fails. -/
structure Passed (s : Surroundings) (request : CheckRequest) where
  early : Message.Locale
  settings : Settings
  named : Message.Locale.ofName (languageName s request.language) = .ok early
  loaded : (load s request.config).result = .ok settings
  valid : (settings.override request.overrides).validate = .ok ()
  examined : Examined s.disk (settings.override request.overrides) (Path.ofText request.target)
  writable : Report.isWritable request.format examined.report = true

section Examine
variable {d : Disk} {settings : Settings} {target : Path} {listing : Listing} {mode : Count.Mode}

theorem Unexamined.not_examined (failed : Unexamined d settings target)
    (x : Examined d settings target) : False := by
  cases failed with
  | patterns failed => cases failed.symm.trans x.read
  | scan failed => cases failed.symm.trans x.scanned
  | count scanned chosen listed failed =>
    cases scanned.symm.trans x.scanned
    cases chosen.symm.trans x.chosen
    have result := List.mem_map_of_mem (f := countEntry d target x.mode) listed
    rw [← x.counted, failed] at result
    obtain ⟨c, _, same⟩ := List.mem_map.mp result
    cases same

/-- What the stages hand on is determined. -/
theorem Examined.unique (x y : Examined d settings target) : x = y := by
  obtain ⟨user, listing, mode, limits, counts, read, scanned, chosen, limited, counted⟩ := x
  obtain ⟨_, _, _, _, others, read', scanned', chosen', limited', counted'⟩ := y
  cases read.symm.trans read'
  cases scanned.symm.trans scanned'
  cases chosen.symm.trans chosen'
  cases limited.symm.trans limited'
  obtain rfl : counts = others :=
    List.map_injective_iff.mpr (fun _ _ => Except.ok.inj) (counted.trans counted'.symm)
  rfl

theorem countListing_error {order : List Nat} {e : Entry} {failure : Count.Failure}
    (once : order ~ List.range listing.files.length) (listed : e ∈ listing.files)
    (failed : countEntry d target mode e = .error failure) :
    ∃ setback, (countListing d (.ofLocation (d.canonical target)) listing mode order).result =
      .error setback := by
  have member := List.mem_map_of_mem (f := fun e : Entry =>
    ((Path.ofLocation (d.canonical target)).append e.names).text) listed
  obtain ⟨first, outcome⟩ := countAll_error (fun path => countFile d path mode lineLimit) mode.name
    (some (min (listing.files.map fun e =>
      ((Path.ofLocation (d.canonical target)).append e.names).text).length mostWorkers : Nat))
    (by simpa using once) member failed
  refine ⟨.ofCountFailure first, ?_⟩
  simp only [countListing, outcome]
  rfl

/-- With valid settings, an examination ends in a report exactly if none of its stages fails. -/
theorem examine_cases (d : Disk) (target : Path) (order : Nat → List Nat)
    (once : ∀ n, order n ~ List.range n) (valid : settings.Valid) :
    (Unexamined d settings target ∧
      ∃ setback, (examine d settings target order).result = .error setback) ∨
    ∃ x : Examined d settings target,
      (examine d settings target order).result = .ok (x.report, x.user.warnings) := by
  -- The stages in their order: where one fails, those behind it are never reached.
  cases read : settings.userPatterns d (currentDirectory d) with
  | error e =>
    exact .inl ⟨.patterns read, .ofLoadError e, Stage.andThen_of_error (by rw [read]; rfl)⟩
  | ok user =>
    cases scanned : (scan d settings target).result with
    | error failure =>
      refine .inl ⟨.scan scanned, .ofScanFailure failure, ?_⟩
      rw [examine, Stage.andThen_of_ok (by rw [read]; rfl)]
      exact Stage.andThen_of_error (by rw [scanned]; rfl)
    | ok listing =>
      obtain ⟨mode, chosen⟩ := valid.exists_mode
      obtain ⟨limits, limited⟩ := exists_limits valid
      by_cases all : ∀ e ∈ listing.files, ∃ c, countEntry d target mode e = .ok c
      · obtain ⟨counts, counted, ended⟩ := countListing_ok (once _) all
        exact .inr ⟨⟨user, listing, mode, limits, counts, read, scanned, chosen, limited, counted⟩,
          examine_of_ok read scanned chosen ended limited⟩
      · simp only [not_forall, not_exists] at all
        obtain ⟨e, listed, uncounted⟩ := all
        cases failed : countEntry d target mode e with
        | ok c => exact absurd failed (uncounted c)
        | error failure =>
          obtain ⟨setback, ended⟩ := countListing_error (once _) listed failed
          refine .inl ⟨.count scanned chosen listed failed, setback, ?_⟩
          rw [examine, Stage.andThen_of_ok (by rw [read]; rfl),
            Stage.andThen_of_ok (by rw [scanned]; rfl), Stage.andThen_of_ok (by rw [chosen]; rfl)]
          exact Stage.andThen_of_error ended

end Examine

section Check
variable {s : Surroundings} {request : CheckRequest}

/-- Behind the check of the settings only the target and the writing of the report can fail. -/
theorem Fails.examining {early : Message.Locale} {settings : Settings} (fails : Fails s request)
    (named : Message.Locale.ofName (languageName s request.language) = .ok early)
    (loaded : (Config.load s request.config).result = .ok settings)
    (valid : (settings.override request.overrides).validate = .ok ()) :
    Unexamined s.disk (settings.override request.overrides) (Path.ofText request.target) ∨
    ∃ x : Examined s.disk (settings.override request.overrides) (Path.ofText request.target),
      Report.isWritable request.format x.report = false := by
  cases fails with
  | language failed => cases failed.symm.trans named
  | load failed => cases failed.symm.trans loaded
  | validate loaded' failed =>
    cases loaded'.symm.trans loaded
    cases failed.symm.trans valid
  | examine loaded' failed =>
    cases loaded'.symm.trans loaded
    exact .inl failed
  | report loaded' x failed =>
    cases loaded'.symm.trans loaded
    exact .inr ⟨x, failed⟩

theorem Fails.not_passed (fails : Fails s request) (p : Passed s request) : False := by
  rcases fails.examining p.named p.loaded p.valid with failed | ⟨x, failed⟩
  · exact failed.not_examined p.examined
  · cases x.unique p.examined
    cases failed.symm.trans p.writable

theorem Passed.unique (p q : Passed s request) : p = q := by
  obtain ⟨early, settings, named, loaded, valid, x, writable⟩ := p
  obtain ⟨_, _, named', loaded', _, y, _⟩ := q
  cases named.symm.trans named'
  cases loaded.symm.trans loaded'
  cases x.unique y
  rfl

/-- A run that failed has its own exit code, and nothing in its output. -/
theorem setBack_ends (d : Diagnostics) (locale : Message.Locale) (setback : Setback) :
    (setBack d locale setback).exit = failureCode ∧ (setBack d locale setback).output = "" := by
  cases setback with
  | problem problem =>
    simp only [setBack]
    split <;> exact ⟨rfl, rfl⟩
  | surprise surprise =>
    simp only [setBack]
    split <;> exact ⟨rfl, rfl⟩

theorem notes_quiet {d : Diagnostics} (quiet : d.verbose = false) (texts : List String) :
    d.notes texts = d := by
  have once (text : String) : d.note text = d := by
    rw [Diagnostics.note, Diagnostics.noteWith, quiet]
    rfl
  induction texts with
  | nil => rfl
  | cons text rest ih =>
    rw [Diagnostics.notes, List.foldl_cons, once]
    exact ih

namespace Passed

/-- The language of the report. -/
def locale (p : Passed s request) : Message.Locale :=
  finalLocale s request.language p.early p.settings

def report (p : Passed s request) : Report := p.examined.report

/-- The warnings about the settings, in the language of the report. -/
def warnings (p : Passed s request) : List String :=
  p.examined.user.warnings.map fun key => Message.say p.locale key []

/-- What is written: the warnings about the settings and the report. -/
def output (p : Passed s request) : String :=
  Report.render request.format p.locale false p.report p.warnings

end Passed

/-- A run goes through all of its stages, or one of them fails and ends it. -/
theorem check_cases (s : Surroundings) (request : CheckRequest) (order : Nat → List Nat)
    (once : ∀ n, order n ~ List.range n) :
    (Fails s request ∧ (check s request order).exit = failureCode ∧
      (check s request order).output = "") ∨
    ∃ p : Passed s request, (check s request order).exit = reportCode p.report ∧
      (check s request order).output = p.output := by
  cases named : Message.Locale.ofName (languageName s request.language) with
  | error unsupported =>
    rw [check, named]
    exact .inl ⟨.language named, rfl, rfl⟩
  | ok early =>
    cases loaded : (load s request.config).result with
    | error e =>
      simp only [check, named, loaded]
      exact .inl ⟨.load loaded, setBack_ends ..⟩
    | ok settings =>
      cases checked : (settings.override request.overrides).validate with
      | error violations =>
        simp only [check, named, loaded, checkWith, Settings.apply, checked]
        exact .inl ⟨.validate loaded checked, setBack_ends ..⟩
      | ok =>
        have ended := examine_cases s.disk (Path.ofText request.target) order once
          (validate_eq_ok.mp checked)
        rcases ended with ⟨failed, setback, ended⟩ | ⟨x, ended⟩
        · simp only [check, named, loaded, checkWith, Settings.apply, checked, ended]
          exact .inl ⟨.examine loaded failed, setBack_ends ..⟩
        · simp only [check, named, loaded, checkWith, Settings.apply, checked, ended]
          cases writable : Report.isWritable request.format x.report with
          | false =>
            simp only [Bool.false_eq_true, if_false]
            exact .inl ⟨.report loaded x writable, setBack_ends ..⟩
          | true => exact .inr ⟨⟨early, settings, named, loaded, checked, x, writable⟩, rfl, rfl⟩

/-- A stage that fails ends the run, whichever one it is. -/
theorem Fails.ends (fails : Fails s request) {order : Nat → List Nat}
    (once : ∀ n, order n ~ List.range n) :
    (check s request order).exit = failureCode ∧ (check s request order).output = "" := by
  rcases check_cases s request order once with ⟨_, ended⟩ | ⟨p, _⟩
  · exact ended
  · exact (fails.not_passed p).elim

theorem reportCode_le (r : Report) : reportCode r = 0 ∨ reportCode r = 1 := by
  unfold reportCode
  split
  · exact .inr rfl
  · exact .inl rfl

theorem reportCode_eq_zero {r : Report} : reportCode r = 0 ↔ r.errors = 0 := by
  unfold reportCode
  split <;> omega

end Check
end LineBudget.Command
