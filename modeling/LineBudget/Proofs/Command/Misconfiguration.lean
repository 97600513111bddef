import LineBudget.Proofs.Command.Stages
import LineBudget.Proofs.Config.Failures
import LineBudget.Proofs.Config.Load

/-! How a check reports a bad configuration or a bad ignore file: documented failures as problems,
and what no documentation names as unexpected errors. -/
namespace LineBudget.Command
open LineBudget.Files LineBudget.Config

/-- The configuration or the ignore file ends a check with this failure. -/
inductive Misconfigured (s : Surroundings) (request : CheckRequest) (e : LoadError) : Prop
  | load (failed : (load s request.config).result = .error e)
  | patterns {settings : Settings} (loaded : (load s request.config).result = .ok settings)
    (valid : (settings.override request.overrides).validate = .ok ())
    (failed : (settings.override request.overrides).userPatterns s.disk
      (currentDirectory s.disk) = .error e)

theorem ofLoadError_problem_iff {e : LoadError} :
    (∃ problem, Setback.ofLoadError e = .problem problem) ↔ e.Documented := by
  cases e with
  | config | invalid => simp [Setback.ofLoadError, LoadError.Documented]
  | notUtf8 | scalar => simp [Setback.ofLoadError, LoadError.Documented]
  | access failure => cases failure <;> simp [Setback.ofLoadError, Setback.ofAccess,
      LoadError.Documented]

variable {s : Surroundings} {request : CheckRequest} {early : Message.Locale} {e : LoadError}

theorem Misconfigured.ends (misconfigured : Misconfigured s request e)
    (named : Message.Locale.ofName (languageName s request.language) = .ok early)
    (order : Nat → List Nat) :
    ∃ d locale, check s request order = setBack d locale (.ofLoadError e) := by
  cases misconfigured with
  | load failed =>
    simp only [check, named, failed]
    exact ⟨_, _, rfl⟩
  | patterns loaded valid failed =>
    have ended : (examine s.disk _ (Path.ofText request.target) order).result =
        .error (.ofLoadError e) := Stage.andThen_of_error (by rw [failed]; rfl)
    simp only [check, named, loaded, checkWith, Settings.apply, valid, ended]
    exact ⟨_, _, rfl⟩

/-- A configuration that loads is valid, and a failed one is documented unless its place could not
be looked at, its file is not UTF-8, or a scalar in it has no value. Without an ignore file that
cannot be looked at or is not UTF-8, the failures of that file are documented as well. A check
reports exactly the documented failures as problems, and the other ones as unexpected errors. -/
theorem check_misconfigured (s : Surroundings) (request : CheckRequest) (order : Nat → List Nat)
    (settings : Settings) (base : Path) :
    (∀ c, (load s request.config).result = .ok c → c.Valid) ∧
    ((∃ e, (load s request.config).result = .error e ∧ ¬ e.Documented) ↔
      (∃ failure, locate s request.config = .error (.access failure)) ∨
      ∃ place, locate s request.config = .ok place ∧
        (Undecodable s.disk place ∨ Valueless s.disk place)) ∧
    ((∃ e, settings.userPatterns s.disk base = .error e ∧ ¬ e.Documented) ↔
      Unanswered s.disk (base.append [ignoreName]) ∨
      s.disk.isFile (base.append [ignoreName]) = .ok true ∧
        Undecodable s.disk (base.append [ignoreName])) ∧
    ∀ early e, Message.Locale.ofName (languageName s request.language) = .ok early →
      Misconfigured s request e →
      (∃ d locale, check s request order = setBack d locale (.ofLoadError e)) ∧
      (e.Documented ↔ ∃ problem, Setback.ofLoadError e = .problem problem) :=
  ⟨fun _ => load_valid, load_undocumented, userPatterns_undocumented settings s.disk base,
    fun _ _ named misconfigured =>
      ⟨misconfigured.ends named order, ofLoadError_problem_iff.symm⟩⟩

/-- A disk with an ignore file that may not be read. -/
def unreadableIgnore : Surroundings := configured [(ignoreName, .file [] false)]

/-- An ignore file that may not be read is a problem with a message of its own. -/
theorem check_misconfigured_unreadable : ∃ refusal d locale,
    check unreadableIgnore {} List.range =
      setBack d locale (.problem (.ofConfigError (.ignoreUnreadable refusal))) := by
  have named : Message.Locale.ofName (languageName unreadableIgnore none) = .ok .en := by cbv
  have legal : LegalName ignoreName := by decide
  have there : unreadableIgnore.disk.node ⟨1, [ignoreName]⟩ = .ok (.file [] false) :=
    Disk.node_names rfl rfl (by simp) (by simpa using legal) (Node.passable_single ..) (by decide)
  have clean : Disk.hasNul ⟨1, [ignoreName]⟩ = false := by decide
  have place : (currentDirectory unreadableIgnore.disk).append [ignoreName] =
      ⟨1, [ignoreName]⟩ := by cbv
  have failed : (({} : Settings).override {}).userPatterns unreadableIgnore.disk
      (currentDirectory unreadableIgnore.disk) =
      .error (.config (.ignoreUnreadable (Refusal.message ⟨.permissionDenied, "/.linecapignore"⟩))) := by
    simp only [Settings.userPatterns, place, Disk.isFile, Disk.test, readIgnoreFile, Disk.read,
      there, clean]
    rfl
  obtain ⟨⟨d, locale, ended⟩, _⟩ := (check_misconfigured _ {} List.range {} ⟨1, []⟩).2.2.2 .en _
    named (.patterns (configured_load _) rfl failed)
  exact ⟨_, d, locale, ended⟩

/-- A disk with a configuration of one octet that no text has. -/
def octetsOnly : Surroundings :=
  { disk := { root := .directory [(preferredName, .file [0xFF] true)] {} } }

/-- Octets that are not UTF-8 are reported as an unexpected error. -/
theorem check_misconfigured_octets :
    (load octetsOnly none).result = .error (.notUtf8 ⟨.invalidStart, 0, [0xFF]⟩) ∧
    (check octetsOnly {} List.range).exit = 2 ∧
    (check octetsOnly {} List.range).diagnostics = ({} : Diagnostics).error
      (Message.say .en "err.unexpected" ["UnicodeDecodeError",
        Text.Utf8.Fault.message ⟨.invalidStart, 0, [0xFF]⟩]) := by
  have read : settingsOfContent [0xFF] = .error (.notUtf8 ⟨.invalidStart, 0, [0xFF]⟩) := by cbv
  have failed : (load octetsOnly none).result = .error (.notUtf8 ⟨.invalidStart, 0, [0xFF]⟩) :=
    (load_preferred rfl rfl rfl rfl).trans read
  have named : Message.Locale.ofName (languageName octetsOnly none) = .ok .en := by cbv
  have ended : check octetsOnly {} List.range =
      setBack {} .en (.ofLoadError (.notUtf8 ⟨.invalidStart, 0, [0xFF]⟩)) := by
    simp only [check, named, failed]
    exact congrArg (setBack · _ _) (notes_quiet rfl _)
  rw [ended]
  exact ⟨failed, rfl, rfl⟩

end LineBudget.Command
