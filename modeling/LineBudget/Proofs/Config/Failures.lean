import LineBudget.Config.IgnoreFile
import LineBudget.Config.Load
import LineBudget.Proofs.Config.Validity
import LineBudget.Proofs.Text.Utf8

/-! The failures of a configuration and of an ignore file: which of them are documented, and what
is behind the other ones. -/
namespace LineBudget.Config
open LineBudget.Files LineBudget.Text

/-- A failure with a message of its own, or violations. -/
def LoadError.Documented : LoadError → Prop
  | .config _ | .invalid _ => True
  | .notUtf8 _ | .scalar _ | .access _ => False

/-- There is no answer to whether a file stands at a path. -/
def Unanswered (d : Disk) (p : Path) : Prop := ∃ failure, d.isFile p = .error failure

/-- The content at a path spells no text. -/
def Undecodable (d : Disk) (p : Path) : Prop :=
  ∃ content, d.read p = .ok content ∧ ∀ text, ¬ Utf8.Spells text content

/-- The text at a path is YAML, but a scalar in it has no value, such as an integer without
digits. -/
def Valueless (d : Disk) (p : Path) : Prop :=
  ∃ content text e, d.read p = .ok content ∧ Utf8.Spells text content ∧
    Yaml.ofText (unifyNewlines text) = .error e ∧ e.isMalformed = false

section Except
variable {α β ε δ : Type} {x : Except ε α} {f : α → Except ε β} {g : ε → δ} {a : α} {b : β} {e : ε}

theorem bind_eq_ok : (x >>= f) = .ok b ↔ ∃ a, x = .ok a ∧ f a = .ok b := by
  cases x <;> simp [bind, Except.bind]

theorem bind_eq_error : (x >>= f) = .error e ↔ x = .error e ∨ ∃ a, x = .ok a ∧ f a = .error e := by
  cases x <;> simp [bind, Except.bind]

theorem mapError_eq_ok : x.mapError g = .ok a ↔ x = .ok a := by
  cases x <;> simp [Except.mapError]

theorem mapError_eq_error {e : δ} : x.mapError g = .error e ↔ ∃ e', x = .error e' ∧ g e' = e := by
  cases x <;> simp [Except.mapError]

end Except

variable {d : Disk} {p place : Path} {s : Surroundings} {given : Option String} {e : LoadError}
  {content : List UInt8} {settings : Settings}

theorem decode_error_iff :
    (∃ fault, Utf8.decode content = .error fault) ↔ ∀ text, ¬ Utf8.Spells text content := by
  simp only [← Utf8.decode_eq_ok_iff]
  cases Utf8.decode content <;> simp

/-- What is a file can be read, unless that is not permitted. -/
theorem read_of_isFile (present : d.isFile p = .ok true) :
    (∃ content, d.read p = .ok content) ∨ ∃ refusal, d.read p = .error (.refused refusal) := by
  unfold Disk.isFile Disk.test at present
  unfold Disk.read
  split_ifs at present ⊢ with nul
  · cases present
  · cases found : d.node p with
    | error reason => exact .inr ⟨_, rfl⟩
    | ok node =>
      rw [found] at present
      cases node with
      | file content readable => cases readable <;> simp
      | link | directory => cases present

/-- The place at which a configuration is expected. -/
def candidate (s : Surroundings) (given : Option String) : Except Failure Path :=
  match given.filter (· ≠ ""), s.lookupVariable configVariable with
  | some path, _ | none, some path => .ok (Path.ofText path)
  | none, none => usualPlace s.disk

theorem locate_eq (s : Surroundings) (given : Option String) :
    locate s given = ((candidate s given).mapError .access >>= fun place =>
      (s.disk.isFile place).mapError .access >>= fun present =>
        if present then .ok place else .error (.config .notFound)) := by
  unfold locate candidate
  cases given.filter (· ≠ "") <;> cases s.lookupVariable configVariable <;> rfl

theorem locate_eq_ok : locate s given = .ok place ↔
    candidate s given = .ok place ∧ s.disk.isFile place = .ok true := by
  rw [locate_eq, bind_eq_ok]
  simp only [bind_eq_ok, mapError_eq_ok]
  constructor
  · rintro ⟨other, expected, present, tested, found⟩
    cases present <;> cases found
    exact ⟨expected, tested⟩
  · rintro ⟨expected, tested⟩
    exact ⟨place, expected, true, tested, rfl⟩

theorem locate_error (failed : locate s given = .error e) :
    e = .config .notFound ∨ ∃ failure, e = .access failure := by
  rw [locate_eq] at failed
  rcases bind_eq_error.mp failed with unplaced | ⟨other, _, failed⟩
  · obtain ⟨failure, _, same⟩ := mapError_eq_error.mp unplaced
    exact .inr ⟨failure, same.symm⟩
  · rcases bind_eq_error.mp failed with unanswered | ⟨present, _, failed⟩
    · obtain ⟨failure, _, same⟩ := mapError_eq_error.mp unanswered
      exact .inr ⟨failure, same.symm⟩
    · cases present <;> cases failed
      exact .inl rfl

theorem settingsOfContent_valid (read : settingsOfContent content = .ok settings) :
    settings.Valid := by
  obtain ⟨text, _, read⟩ := bind_eq_ok.mp read
  obtain ⟨value, _, read⟩ := bind_eq_ok.mp read
  obtain ⟨other, _, read⟩ := bind_eq_ok.mp read
  obtain ⟨_, checked, read⟩ := bind_eq_ok.mp read
  cases read
  exact validate_eq_ok.mp (mapError_eq_ok.mp checked)

/-- Behind the decoder and the values of scalars, all failures of a content are documented. -/
theorem settingsOfContent_undocumented :
    (∃ e, settingsOfContent content = .error e ∧ ¬ e.Documented) ↔
      (∀ text, ¬ Utf8.Spells text content) ∨
      ∃ text e, Utf8.Spells text content ∧ Yaml.ofText (unifyNewlines text) = .error e ∧
        e.isMalformed = false := by
  constructor
  · rintro ⟨e, failed, undocumented⟩
    rcases bind_eq_error.mp failed with undecoded | ⟨text, decoded, failed⟩
    · obtain ⟨fault, raised, rfl⟩ := mapError_eq_error.mp undecoded
      exact .inl (decode_error_iff.mp ⟨fault, raised⟩)
    have spells := Utf8.decode_eq_ok_iff.mp (mapError_eq_ok.mp decoded)
    rcases bind_eq_error.mp failed with valueless | ⟨value, _, failed⟩
    · obtain ⟨error, raised, rfl⟩ := mapError_eq_error.mp valueless
      refine .inr ⟨text, error, spells, raised, ?_⟩
      by_contra malformed
      simp only [Bool.not_eq_false] at malformed
      rw [if_pos malformed] at undocumented
      exact undocumented trivial
    -- From here on every failure is a documented one.
    refine absurd ?_ undocumented
    rcases bind_eq_error.mp failed with unread | ⟨settings, _, failed⟩
    · obtain ⟨error, _, rfl⟩ := mapError_eq_error.mp unread
      trivial
    rcases bind_eq_error.mp failed with invalid | ⟨_, _, failed⟩
    · obtain ⟨violations, _, rfl⟩ := mapError_eq_error.mp invalid
      trivial
    · cases failed
  · rintro (unspelled | ⟨text, e, spells, valueless, unforeseen⟩)
    · obtain ⟨fault, undecoded⟩ := decode_error_iff.mpr unspelled
      refine ⟨.notUtf8 fault, ?_, id⟩
      apply bind_eq_error.mpr
      left
      rw [undecoded]
      rfl
    · refine ⟨.scalar e, ?_, id⟩
      apply bind_eq_error.mpr
      right
      refine ⟨text, ?_, ?_⟩
      · rw [Utf8.decode_eq_ok_iff.mpr spells]
        rfl
      · apply bind_eq_error.mpr
        left
        rw [valueless]
        simp only [Except.mapError, unforeseen, Bool.false_eq_true, if_false]

theorem load_valid (loaded : (load s given).result = .ok settings) : settings.Valid := by
  cases found : locate s given with
  | error e =>
    rw [load, found] at loaded
    cases loaded
  | ok place =>
    rw [load, found] at loaded
    obtain ⟨content, _, loaded⟩ := bind_eq_ok.mp loaded
    exact settingsOfContent_valid loaded

/-- A file that was found is read before its content is looked at. -/
theorem load_read {place : Path} (found : locate s given = .ok place)
    (read : s.disk.read place = .ok content) :
    (load s given).result = settingsOfContent content := by
  simp only [load, found, readSettings, read]
  rfl

theorem load_refused {place : Path} {refusal : Refusal} (found : locate s given = .ok place)
    (refused : s.disk.read place = .error (.refused refusal)) :
    (load s given).result = .error (.config (.unparsable refusal.message)) := by
  simp only [load, found, readSettings, refused]
  rfl

/-- A failed load is documented unless the place of the configuration could not be looked at, its
file is not UTF-8, or a scalar in it has no value. -/
theorem load_undocumented :
    (∃ e, (load s given).result = .error e ∧ ¬ e.Documented) ↔
      (∃ failure, locate s given = .error (.access failure)) ∨
      ∃ place, locate s given = .ok place ∧
        (Undecodable s.disk place ∨ Valueless s.disk place) := by
  cases found : locate s given with
  | error e =>
    simp only [load, found, Except.error.injEq, exists_eq_left', reduceCtorEq, false_and,
      exists_false, or_false]
    rcases locate_error found with rfl | ⟨failure, rfl⟩
    · simp [LoadError.Documented]
    · simp [LoadError.Documented]
  | ok place =>
    have present := (locate_eq_ok.mp found).2
    simp only [reduceCtorEq, exists_false, false_or, Except.ok.injEq, exists_eq_left']
    rcases read_of_isFile present with ⟨content, read⟩ | ⟨refusal, refused⟩
    · simp only [load_read found read, settingsOfContent_undocumented, Undecodable, Valueless, read,
        Except.ok.injEq, exists_eq_left']
      simp
    · simp [load_refused found refused, LoadError.Documented, Undecodable, Valueless, refused]

theorem readIgnoreFile_undocumented (present : d.isFile p = .ok true) :
    (∃ e, readIgnoreFile d p = .error e ∧ ¬ e.Documented) ↔ Undecodable d p := by
  rcases read_of_isFile present with ⟨content, read⟩ | ⟨refusal, refused⟩
  · simp only [readIgnoreFile, read, patternsOfContent, Undecodable, Except.ok.injEq,
      exists_eq_left', ← decode_error_iff]
    cases Utf8.decode content with
    | ok text => simp
    | error fault => simp [LoadError.Documented]
  · simp [readIgnoreFile, refused, LoadError.Documented, Undecodable]

/-- A failed ignore file is documented unless there is no answer to whether it is there, or it is
not UTF-8. -/
theorem userPatterns_undocumented (settings : Settings) (d : Disk) (base : Path) :
    (∃ e, settings.userPatterns d base = .error e ∧ ¬ e.Documented) ↔
      Unanswered d (base.append [ignoreName]) ∨
      d.isFile (base.append [ignoreName]) = .ok true ∧
        Undecodable d (base.append [ignoreName]) := by
  simp only [Settings.userPatterns, Unanswered]
  cases tested : d.isFile (base.append [ignoreName]) with
  | error failure => simp [Except.mapError, bind, Except.bind, LoadError.Documented]
  | ok present =>
    cases present with
    | false => simp [Except.mapError, bind, Except.bind, pure, Except.pure]
    | true =>
      simp only [reduceCtorEq, exists_false, false_or, true_and,
        ← readIgnoreFile_undocumented tested]
      cases read : readIgnoreFile d (base.append [ignoreName]) <;>
        simp [Except.mapError, bind, Except.bind, pure, Except.pure]

end LineBudget.Config
