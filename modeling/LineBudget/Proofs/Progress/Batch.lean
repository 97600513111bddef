import LineBudget.Progress.Screen
import LineBudget.Proofs.Count.Batch
import LineBudget.Proofs.Number.Digits
import LineBudget.Proofs.Progress.Lifecycle

/-! A batch on a display. Its calls are those of one context with one task, whatever the order in which
the units end. The display takes all of them but the exit, which draws the text of a failure as markup:
there a failure can be lost. -/
namespace LineBudget.Progress
open LineBudget.Count
open scoped List

/-- What a batch of so many units ends with. -/
def closing (units : Nat) : Except Failure (List FileCount) → List DisplayCall
  | .ok _ => [.complete s!"Counted lines in {units} files." units, .exit none]
  | .error failure =>
    [.fail s!"Failed to count lines: {failure.message}", .exit (some failure)]

/-- The task of a batch of so many units, of which some have ended. -/
def batchTask (units ended : Nat) (stage : Stage) (text : String) : Task where
  description := stage.mark text
  total := some units
  completed := ended
  finished := decide (units ≤ ended)

/-- A display with the task of a batch, while units end. -/
def during (units ended : Nat) : Display where
  tasks := some [batchTask units ended .inProgress s!"Counting lines in {units} files..."]
  current := some 0
  drawing := .on

/-- The task of a batch that has ended. -/
def endTask (units : Nat) : Except Failure (List FileCount) → Task
  | .ok _ => batchTask units units .complete s!"Counted lines in {units} files."
  | .error failure => batchTask units units .error s!"Failed to count lines: {failure.message}"

section Calls
variable {count : String → Except Failure FileCount} {paths : List String} {name : String}
  {workers : Option Int} {order : List Nat}

theorem countAll_calls (count : String → Except Failure FileCount) (name : String)
    (workers : Option Int) (some_paths : paths ≠ []) (once : order ~ List.range paths.length) :
    let batch := countAll count paths name workers order
    batch.calls = .enter :: .start s!"Counting lines in {paths.length} files..." paths.length ::
      (List.replicate paths.length .advance ++ closing paths.length batch.outcome) := by
  have length : order.length = paths.length := by simpa using once.length_eq
  have full : paths.isEmpty = false := by simpa using some_paths
  have advances : order.map (fun _ => DisplayCall.advance) = List.replicate paths.length .advance := by
    rw [List.map_const', length]
  intro batch
  simp only [batch, countAll, full, Bool.false_eq_true, if_false, advances]
  split <;> rfl

/-- A batch fails exactly if one of its units does. -/
theorem countAll_fails (count : String → Except Failure FileCount) (name : String)
    (workers : Option Int) (once : order ~ List.range paths.length) :
    (∃ failure, (countAll count paths name workers order).outcome = .error failure) ↔
      ∃ path ∈ paths, ∃ failure, count path = .error failure := by
  constructor
  · rintro ⟨failure, failed⟩
    by_contra fine
    have succeed : ∀ path ∈ paths, ∃ c, count path = .ok c := by
      intro path member
      cases result : count path with
      | ok c => exact ⟨c, rfl⟩
      | error other => exact absurd ⟨path, member, other, result⟩ fine
    obtain ⟨counts, counted, _⟩ := countAll_ok name workers once succeed
    cases counted.symm.trans failed
  · rintro ⟨path, member, failure, failed⟩
    exact countAll_error count name workers once member failed

end Calls

section Display
variable {painter : Painter} {d next : Display} {call : Call} {rest : List Call}
  {units ended : Nat}

theorem run_cons (taken : d.call painter call = ⟨next, none⟩) :
    d.run painter (call :: rest) = next.run painter rest := by
  simp only [Display.run, taken]

/-- A finished task stays finished as long as its total does. -/
theorem batchTask_apply (units ended next : Nat) (later : ended ≤ next) {stage stage' : Stage}
    {text text' : String} {update : Update} {changed : Option String}
    (total : update.total = none)
    (completed : update.completed.getD ((update.advance.map ((ended : Int) + ·)).getD ended) = next)
    (described : changed.getD (stage.mark text) = stage'.mark text') :
    (batchTask units ended stage text).apply update changed =
      batchTask units next stage' text' := by
  simpa [TaskOf.apply, batchTask, total, completed, described] using
    fun reached : units ≤ ended => reached.trans later

theorem during_change (painter : Painter) (units ended : Nat) {method : String}
    (needs : call.method? = some method) {change : Task → Task}
    (complete : call.change? = some change) :
    let task := batchTask units ended .inProgress s!"Counting lines in {units} files..."
    (during units ended).call painter call =
      ⟨{ during units ended with tasks := some [change task] }, none⟩ := by
  intro task
  rw [Display.call_change painter _ needs, Display.started_some rfl]
  simp only [during, complete]
  rfl

theorem during_advance (painter : Painter) (units ended : Nat) :
    (during units ended).call painter (.ofBatch .advance) = ⟨during units (ended + 1), none⟩ := by
  rw [Call.ofBatch, during_change painter units ended rfl rfl]
  rw [batchTask_apply units ended (ended + 1) (Nat.le_succ ended) rfl rfl rfl]
  rfl

/-- So many units end. -/
theorem run_advances (painter : Painter) (units ended more : Nat) (rest : List Call) :
    (during units ended).run painter (List.replicate more (.ofBatch .advance) ++ rest) =
      (during units (ended + more)).run painter rest := by
  induction more generalizing ended with
  | zero => rfl
  | succ more ih =>
    rw [List.replicate_succ, List.cons_append, run_cons (during_advance painter units ended), ih,
      Nat.add_right_comm]
    rfl

theorem mark_eq (stage : Stage) (text : String) :
    stage.mark text = "[" ++ stage.colour ++ "]" ++ text := rfl

/-- Only what is said of a task can close a style, not the colour of its stage. -/
theorem closes_mark {stage : Stage} {text : String}
    (closes : ['[', '/'] <:+: (stage.mark text).toList) : ['[', '/'] <:+: text.toList := by
  cases stage <;> simpa [mark_eq, Stage.colour, List.infix_cons_iff] using closes

/-- A text without a slash closes no style, whatever numbers are in it. -/
theorem not_closes {before after : String} (plain : '/' ∉ before.toList)
    (plain' : '/' ∉ after.toList) (n : Nat) :
    ¬ ['[', '/'] <:+: (before ++ toString n ++ after).toList := by
  intro closes
  have slash : '/' ∈ (before ++ toString n ++ after).toList := closes.subset (by simp)
  simp only [String.toList_append, List.mem_append] at slash
  rcases slash with (inside | inside) | inside
  · exact plain inside
  · exact absurd (Number.isDigit_of_mem_toString inside) (by decide)
  · exact plain' inside

/-- A task can be drawn if its text closes no style and the number of units is not too long. -/
theorem draws_batchTask (painter : Painter) (short : Number.isWritable units = true)
    (within : ended ≤ units) {stage : Stage} {text : String}
    (plain : ¬ ['[', '/'] <:+: text.toList) :
    painter.complaint (batchTask units ended stage text) = none := by
  have completed : Number.isWritable ended = true :=
    Number.isWritable_of_le (Int.natCast_nonneg ended) (Int.ofNat_le.mpr within) short
  refine painter.draws _ (fun closes => plain (closes_mark closes)) ?_
  simp [Task.isWritable, batchTask, completed, short]

/-- A display that draws no bar takes the entry and the start of a batch of some units. -/
theorem run_opening (painter : Painter) (free : d.drawing = .off) (some_units : units ≠ 0)
    (short : Number.isWritable units = true) (rest : List Call) :
    d.run painter (.enter :: .start s!"Counting lines in {units} files..." (some units) :: rest) =
      (during units 0).run painter rest := by
  have entered : d.call painter .enter = ⟨⟨some [], d.current, .on⟩, none⟩ := by
    simp [Display.call, Display.enter, free]
  have drawn : painter.complaint
      (batchTask units 0 .inProgress s!"Counting lines in {units} files...") = none :=
    draws_batchTask painter short (Nat.zero_le units) (not_closes (by decide) (by decide) units)
  have new : ({ description := Stage.inProgress.mark s!"Counting lines in {units} files..."
                total := some units } : Task) =
      batchTask units 0 .inProgress s!"Counting lines in {units} files..." := by
    simp [batchTask, some_units]
  rw [run_cons entered]
  apply run_cons
  simp only [Display.call, Display.onStart, create, new, List.nil_append, if_true, Painter.draw,
    List.findSome?_cons, List.findSome?_nil, drawn]
  rfl

theorem run_exit (painter : Painter) (task : Task) :
    (⟨some [task], some 0, .on⟩ : Display).run painter [.exit] =
      ⟨{ tasks := some [task], current := some 0 }, (painter.complaint task).map .undrawn⟩ := by
  cases drawn : painter.complaint task <;>
    simp [Display.run, Display.call, Display.exit, Painter.draw, drawn]

/-- The last call of a batch changes its task once more before the context is left. -/
theorem run_last (painter : Painter) (units : Nat) {method : String}
    (needs : call.method? = some method) {change : Task → Task}
    (complete : call.change? = some change) {task : Task}
    (done : change (batchTask units units .inProgress s!"Counting lines in {units} files...") = task) :
    (during units units).run painter [call, .exit] =
      ⟨{ tasks := some [task], current := some 0 }, (painter.complaint task).map .undrawn⟩ := by
  rw [run_cons (during_change painter units units needs complete), done]
  exact run_exit painter task

theorem run_closing (painter : Painter) (units : Nat)
    (outcome : Except Failure (List FileCount)) :
    (during units units).run painter ((closing units outcome).map .ofBatch) =
      ⟨{ tasks := some [endTask units outcome], current := some 0 },
        (painter.complaint (endTask units outcome)).map .undrawn⟩ := by
  have described {text : String} (long : text ≠ "") : given (some text) = some text := by
    simp [given, long]
  cases outcome with
  | ok counts =>
    let text := s!"Counted lines in {units} files."
    have complete : (Call.complete text units none).change? = some fun task =>
        task.apply ⟨none, none, some units, none, none⟩ (some (Stage.complete.mark text)) := by
      rw [Call.change?, described (by simp [text])]
      rfl
    exact run_last painter units rfl complete
      (batchTask_apply units units units (Nat.le_refl units) rfl rfl rfl)
  | error failure =>
    let text := s!"Failed to count lines: {failure.message}"
    have complete : (Call.fail text).change? = some fun task =>
        task.apply ⟨none, none, none, none, none⟩ (some (Stage.error.mark text)) := by
      have long : text ≠ "" := by
        change "Failed to count lines: " ++ failure.message ≠ ""
        simp
      rw [Call.change?, described long]
      rfl
    exact run_last painter units rfl complete
      (batchTask_apply units units units (Nat.le_refl units) rfl rfl rfl)

/-- The end of a batch is drawn unless the text of a failure closes a style. -/
theorem draws_endTask (painter : Painter) (short : Number.isWritable units = true)
    {outcome : Except Failure (List FileCount)}
    (plain : ∀ failure, outcome = .error failure → ¬ ['[', '/'] <:+: failure.message.toList) :
    painter.complaint (endTask units outcome) = none := by
  cases outcome with
  | ok counts =>
    exact draws_batchTask painter short (Nat.le_refl units)
      (not_closes (by decide) (by decide) units)
  | error failure =>
    refine draws_batchTask painter short (Nat.le_refl units) fun closes => plain failure rfl ?_
    have said : (s!"Failed to count lines: {failure.message}").toList =
        "Failed to count lines: ".toList ++ failure.message.toList := String.toList_append
    rw [said] at closes
    simpa [List.infix_cons_iff] using closes

/-- The calls of a batch of some units on a display that draws no bar, up to any unit and to the
end. -/
theorem run_batch (painter : Painter) (free : d.drawing = .off) (some_units : units ≠ 0)
    (short : Number.isWritable units = true) {outcome : Except Failure (List FileCount)}
    {calls : List DisplayCall}
    (made : calls = .enter :: .start s!"Counting lines in {units} files..." units ::
      (List.replicate units .advance ++ closing units outcome)) :
    (∀ k ≤ units, d.run painter ((calls.take (k + 2)).map .ofBatch) = ⟨during units k, none⟩) ∧
    d.run painter (calls.map .ofBatch) =
      ⟨{ tasks := some [endTask units outcome], current := some 0 },
        (painter.complaint (endTask units outcome)).map .undrawn⟩ := by
  constructor
  · intro k within
    have begun : calls.take (k + 2) = .enter ::
        .start s!"Counting lines in {units} files..." units :: List.replicate k .advance := by
      rw [made, List.take_succ_cons, List.take_succ_cons, List.take_append_of_le_length,
        List.take_replicate, Nat.min_eq_left within]
      rwa [List.length_replicate]
    rw [begun, List.map_cons, List.map_cons, List.map_replicate, Call.ofBatch, Call.ofBatch,
      run_opening painter free some_units short, ← List.append_nil (List.replicate _ _),
      run_advances, Nat.zero_add]
    rfl
  · rw [made, List.map_cons, List.map_cons, List.map_append, List.map_replicate, Call.ofBatch,
      Call.ofBatch, run_opening painter free some_units short, run_advances, Nat.zero_add,
      run_closing]

end Display

section Shown
variable {count : String → Except Failure FileCount} {paths : List String} {order : List Nat}

/-- A batch of files, in any order of completion, and what becomes of it where it is shown. Its calls
are one entry, one start with the number of files, one advance for each file, one end that tells
whether a file failed, and one exit with that failure; a batch of no files makes none. A silent screen
and none at all leave the outcome as it is.

A display that draws no bar, on which the number of files can be written out, takes all calls but the
exit, and then its only task has as many units completed as files have ended. The exit draws the end of
the batch, and if that cannot be drawn, what it raises takes the place of the outcome. That is so only
for a failure whose text has a closing word in it. -/
theorem countAll_shown (painter : Painter) (count : String → Except Failure FileCount)
    (paths : List String) (name : String) (workers : Option Int) (order : List Nat)
    (once : order ~ List.range paths.length) (d : Display) (free : d.drawing = .off) :
    let n := paths.length
    let batch := countAll count paths name workers order
    (paths = [] → batch.calls = [] ∧ batch.outcome = .ok []) ∧
    (paths ≠ [] → batch.calls = .enter :: .start s!"Counting lines in {n} files..." n ::
      (List.replicate n .advance ++ closing n batch.outcome)) ∧
    ((∃ failure, batch.outcome = .error failure) ↔
      ∃ path ∈ paths, ∃ failure, count path = .error failure) ∧
    outcomeOn painter none batch = batch.outcome.mapError .file ∧
    outcomeOn painter (some .silent) batch = batch.outcome.mapError .file ∧
    (Number.isWritable n = true →
      (paths ≠ [] →
        (∀ k ≤ n, d.run painter ((batch.calls.take (k + 2)).map .ofBatch) = ⟨during n k, none⟩) ∧
        d.run painter (batch.calls.map .ofBatch) =
          ⟨{ tasks := some [endTask n batch.outcome], current := some 0 },
            (painter.complaint (endTask n batch.outcome)).map .undrawn⟩) ∧
      outcomeOn painter (some (.bar d)) batch =
        (match painter.complaint (endTask n batch.outcome) with
        | some complaint => .error (.display (.undrawn complaint))
        | none => batch.outcome.mapError .file) ∧
      ((∀ failure, batch.outcome = .error failure → ¬ ['[', '/'] <:+: failure.message.toList) →
        painter.complaint (endTask n batch.outcome) = none)) := by
  intro n batch
  have nothing : paths = [] → batch.calls = [] ∧ batch.outcome = .ok [] := by
    rintro rfl
    exact ⟨rfl, rfl⟩
  have calls : paths ≠ [] → batch.calls = _ := fun some_paths =>
    countAll_calls count name workers some_paths once
  refine ⟨nothing, calls, countAll_fails count name workers once, rfl, rfl, fun short => ?_⟩
  have ran (some_paths : paths ≠ []) := run_batch painter free (by simpa [n] using some_paths) short
    (calls some_paths)
  refine ⟨ran, ?_, draws_endTask painter short⟩
  by_cases none_at_all : paths = []
  · obtain ⟨no_calls, outcome⟩ := nothing none_at_all
    have drawn : painter.complaint (endTask n batch.outcome) = none :=
      draws_endTask painter short (by simp [outcome])
    simp only [outcomeOn, Option.getD_some, Screen.run, no_calls, List.map_nil, Display.run, drawn]
  · simp only [outcomeOn, Option.getD_some, Screen.run, (ran none_at_all).2]
    cases painter.complaint (endTask n batch.outcome) <;> rfl

/-- Two files on one thread, of which the one that ends first is missing: the bar changes nothing. -/
theorem countAll_shown_missing :
    let count (path : String) : Except Failure FileCount :=
      if path = "a" then .ok ⟨"a", 1, 1⟩ else .error (.unreadable path ⟨.notFound, path⟩)
    outcomeOn .standard (some (.bar {})) (countAll count ["a", "b"] "all" (some 1) [1, 0]) =
      .error (.file (.unreadable "b" ⟨.notFound, "b"⟩)) := by
  intro count
  have outcome : (countAll count ["a", "b"] "all" (some 1) [1, 0]).outcome =
      .error (.unreadable "b" ⟨.notFound, "b"⟩) := by rfl
  obtain ⟨_, _, _, _, _, drawn⟩ :=
    countAll_shown .standard count ["a", "b"] "all" (some 1) [1, 0] (by decide) {} rfl
  obtain ⟨_, shown, plain⟩ := drawn (by decide)
  rw [outcome] at shown plain
  rw [shown, plain]
  · rfl
  · intro failure failed
    obtain rfl := Except.error.inj failed
    decide +kernel

/-- A missing file whose path has a closing word in it. With a bar, the failure is lost. -/
theorem countAll_shown_closing :
    let nothing : Files.Disk := { root := .directory [] {} }
    let batch := countAll (fun path => countFile nothing path .all lineLimit) ["a[/b]"] "all" none [0]
    outcomeOn .standard none batch =
        .error (.file (.unreadable "a[/b]" ⟨.notFound, "a[/b]"⟩)) ∧
      outcomeOn .standard (some (.bar {})) batch = .error (.display (.undrawn
        (.markup "closing tag '[/b]' at position 72 doesn't match any open tag"))) := by
  intro nothing batch
  let failure : Failure := .unreadable "a[/b]" ⟨.notFound, "a[/b]"⟩
  have missing : countFile nothing "a[/b]" .all lineLimit = .error failure := by cbv
  have same : batch = countAll (fun _ => .error failure) ["a[/b]"] "all" none [0] :=
    countAll_congr "all" none [0] (by simpa using missing)
  rw [same]
  constructor
  · rfl
  · decide +kernel

end Shown
end LineBudget.Progress
