import LineBudget.Proofs.Config.Violations

/-! Settings that are overridden one time after another. In the end each setting has the value that
was given last for it, as after a single override by the merge of them all. A failed check does not
take back what it is about. -/
namespace LineBudget.Config

/-- Two overrides as one: what the second one gives, and else what the first one gives. -/
def Overrides.merge (first second : Overrides) : Overrides where
  maxFileLines := second.maxFileLines.or first.maxFileLines
  maxDirectoryLines := second.maxDirectoryLines.or first.maxDirectoryLines
  warningThreshold := second.warningThreshold.or first.warningThreshold
  countMode := second.countMode.or first.countMode
  ignore := second.ignore.or first.ignore
  noDefaultExcludes := first.noDefaultExcludes || second.noDefaultExcludes

/-- All overrides of a sequence of calls as one. -/
def Overrides.mergeAll : List (Option Overrides) → Overrides
  | [] => {}
  | none :: rest => mergeAll rest
  | some o :: rest => o.merge (mergeAll rest)

/-- Applies overrides one after another, also behind a failure: the settings in the end, and the
answers in the order of the calls. -/
def Settings.applyAll (s : Settings) :
    List (Option Overrides) → Settings × List (Except (List Violation) Unit)
  | [] => (s, [])
  | call :: rest =>
    let onward := (s.apply call).1.applyAll rest
    (onward.1, (s.apply call).2 :: onward.2)

/-- The values that are given for a setting, in the order of the calls. -/
def valuesGiven {α : Type} (field : Overrides → Option α) (calls : List (Option Overrides)) : List α :=
  calls.filterMap (·.bind field)

/-- What was given last, or the initial value where nothing was given. -/
def lastOr {α : Type} (initial : α) (values : List α) : α := values.getLast?.getD initial

theorem override_none (s : Settings) : s.override {} = s := by
  simp [Settings.override]

theorem override_merge (s : Settings) (first second : Overrides) :
    (s.override first).override second = s.override (first.merge second) := by
  simp only [Settings.override, Overrides.merge, Option.getD_or, Bool.not_or, Bool.and_assoc]

theorem applyAll_eq_override (s : Settings) (calls : List (Option Overrides)) :
    (s.applyAll calls).1 = s.override (Overrides.mergeAll calls) := by
  induction calls generalizing s with
  | nil => exact (override_none s).symm
  | cons call rest ih =>
    rw [Settings.applyAll, ih]
    cases call with
    | none => rfl
    | some o => exact override_merge s o (Overrides.mergeAll rest)

/-- A field that merging treats like an option holds the last value that was given for it. -/
theorem mergeAll_field {α : Type} {field : Overrides → Option α} (unset : field {} = none)
    (merged : ∀ first second, field (first.merge second) = (field second).or (field first))
    (calls : List (Option Overrides)) :
    field (Overrides.mergeAll calls) = (valuesGiven field calls).getLast? := by
  induction calls with
  | nil => exact unset
  | cons call rest ih =>
    cases call with
    | none => exact ih
    | some o =>
      rw [Overrides.mergeAll, merged, ih]
      cases here : field o with
      | none =>
        have passed : valuesGiven field (some o :: rest) = valuesGiven field rest :=
          List.filterMap_cons_none here
        rw [passed, Option.or_none]
      | some value =>
        have first : valuesGiven field (some o :: rest) = value :: valuesGiven field rest :=
          List.filterMap_cons_some here
        rw [first, List.getLast?_cons]
        cases (valuesGiven field rest).getLast? <;> rfl

theorem mergeAll_noDefaultExcludes (calls : List (Option Overrides)) :
    (Overrides.mergeAll calls).noDefaultExcludes = false ↔
      ∀ o, some o ∈ calls → o.noDefaultExcludes = false := by
  induction calls with
  | nil => simp [Overrides.mergeAll]
  | cons call rest ih =>
    cases call with
    | none => simpa [Overrides.mergeAll] using ih
    | some o => simp [Overrides.mergeAll, Overrides.merge, ih]

theorem applyAll_append (s : Settings) (before after : List (Option Overrides)) :
    s.applyAll (before ++ after) = (((s.applyAll before).1.applyAll after).1,
      (s.applyAll before).2 ++ ((s.applyAll before).1.applyAll after).2) := by
  induction before generalizing s with
  | nil => rfl
  | cons call rest ih =>
    rw [List.cons_append, Settings.applyAll, ih]
    rfl

theorem length_answers (s : Settings) (calls : List (Option Overrides)) :
    (s.applyAll calls).2.length = calls.length := by
  induction calls generalizing s with
  | nil => rfl
  | cons call rest ih => rw [Settings.applyAll, List.length_cons, ih, List.length_cons]

/-- Each call is answered by the check of the settings that it leaves. -/
theorem answer_eq (s : Settings) (before : List (Option Overrides)) (call : Option Overrides)
    (after : List (Option Overrides)) :
    (s.applyAll (before ++ call :: after)).2[before.length]? =
      some ((s.applyAll before).1.apply call).2 := by
  rw [applyAll_append, ← length_answers s before, List.getElem?_append_right (Nat.le_refl _),
    Nat.sub_self]
  rfl

theorem applyAll_concat (s : Settings) (before : List (Option Overrides))
    (call : Option Overrides) :
    (s.applyAll (before ++ [call])).1 = ((s.applyAll before).1.apply call).1 := by
  rw [applyAll_append]
  rfl

/-- A setting that overriding replaces by a field holds what was given last for it. -/
theorem applyAll_setting {α : Type} (s : Settings) (calls : List (Option Overrides))
    (setting : Settings → α) (field : Overrides → Option α)
    (replaced : ∀ s o, setting (s.override o) = (field o).getD (setting s)) (unset : field {} = none)
    (merged : ∀ first second, field (first.merge second) = (field second).or (field first)) :
    setting (s.applyAll calls).1 = lastOr (setting s) (valuesGiven field calls) := by
  rw [applyAll_eq_override, replaced, mergeAll_field unset merged, lastOr]

theorem applyAll_defaultExcludes (s : Settings) (calls : List (Option Overrides)) :
    (s.applyAll calls).1.defaultExcludes = true ↔
      s.defaultExcludes = true ∧ ∀ o, some o ∈ calls → o.noDefaultExcludes = false := by
  rw [applyAll_eq_override, ← mergeAll_noDefaultExcludes]
  simp [Settings.override]

/-- After any sequence of calls, failed ones among them, each setting has the value that was given
last for it, or its initial one. The default patterns stay in use unless a call turned them off, and
the language stays. Each override is answered by the check of the settings that it leaves, and a
call without one changes nothing. Two overrides in a row leave what their merge leaves, and so do all
of them. -/
theorem applyAll_exact (s : Settings) (calls : List (Option Overrides)) :
    let final := (s.applyAll calls).1
    let answers := (s.applyAll calls).2
    (final.rules.maxFileLines = lastOr s.rules.maxFileLines (valuesGiven Overrides.maxFileLines calls) ∧
      final.rules.maxDirectoryLines =
        lastOr s.rules.maxDirectoryLines (valuesGiven Overrides.maxDirectoryLines calls) ∧
      final.rules.warningThreshold =
        lastOr s.rules.warningThreshold (valuesGiven Overrides.warningThreshold calls) ∧
      final.countMode = lastOr s.countMode (valuesGiven Overrides.countMode calls) ∧
      final.ignore = lastOr s.ignore (valuesGiven Overrides.ignore calls)) ∧
    (final.defaultExcludes = true ↔
      s.defaultExcludes = true ∧ ∀ o, some o ∈ calls → o.noDefaultExcludes = false) ∧
    final.language = s.language ∧
    answers.length = calls.length ∧
    (∀ before o after, calls = before ++ some o :: after →
      let now := (s.applyAll (before ++ [some o])).1
      answers[before.length]? = some now.validate ∧
        (now.validate = .ok () ↔ ∀ v, now.Meets v)) ∧
    (∀ before after, calls = before ++ none :: after →
      answers[before.length]? = some (.ok ()) ∧
        (s.applyAll (before ++ [none])).1 = (s.applyAll before).1) ∧
    (∀ before first second after, calls = before ++ some first :: some second :: after →
      (s.applyAll (before ++ some (first.merge second) :: after)).1 = final) ∧
    (s.apply (some (Overrides.mergeAll calls))).1 = final := by
  intro final answers
  have stands : final = s.override (Overrides.mergeAll calls) := applyAll_eq_override s calls
  refine ⟨⟨?_, ?_, ?_, ?_, ?_⟩, applyAll_defaultExcludes s calls, ?_, length_answers s calls, ?_, ?_,
    ?_, stands.symm⟩
  -- The five settings that a field of the overrides replaces.
  · exact applyAll_setting s calls (·.rules.maxFileLines) _ (fun _ _ => rfl) rfl fun _ _ => rfl
  · exact applyAll_setting s calls (·.rules.maxDirectoryLines) _ (fun _ _ => rfl) rfl fun _ _ => rfl
  · exact applyAll_setting s calls (·.rules.warningThreshold) _ (fun _ _ => rfl) rfl fun _ _ => rfl
  · exact applyAll_setting s calls (·.countMode) _ (fun _ _ => rfl) rfl fun _ _ => rfl
  · exact applyAll_setting s calls (·.ignore) _ (fun _ _ => rfl) rfl fun _ _ => rfl
  · rw [stands]
    rfl
  · intro before o after split now
    have left : now = ((s.applyAll before).1.apply (some o)).1 := applyAll_concat ..
    refine ⟨?_, validate_eq_ok_iff⟩
    subst split
    rw [left]
    exact answer_eq s before (some o) after
  · intro before after split
    subst split
    exact ⟨answer_eq s before none after, applyAll_concat ..⟩
  · intro before first second after split
    have twice (now : Settings) : (now.applyAll (some first :: some second :: after)).1 =
        (now.applyAll (some (first.merge second) :: after)).1 := by
      simp only [Settings.applyAll, Settings.apply, override_merge]
    subst split
    simp only [final, applyAll_append, twice]

/-- A limit of zero and an empty list are given. The check of the first call fails, and what it gave
stands all the same until something else is given. -/
theorem applyAll_exact_failing :
    let s : Settings := { ignore := ["vendor/"] }
    let calls : List (Option Overrides) := [some { maxFileLines := some (.int 0), ignore := some [] },
      none, some { maxFileLines := some (.int 5), noDefaultExcludes := true }]
    (s.applyAll calls).1.ignore = [] ∧ (s.applyAll calls).1.rules.maxFileLines = .int 5 ∧
      (s.applyAll calls).2[0]? = some (.error [.maxFileLines]) ∧
      (s.applyAll calls).2[2]? = some (.ok ()) := by
  intro s calls
  obtain ⟨⟨file, _, _, _, ignore⟩, _, _, _, answers, _⟩ := applyAll_exact s calls
  exact ⟨ignore, file, (answers [] _ _ rfl).1, (answers [_, none] _ [] rfl).1⟩

end LineBudget.Config
