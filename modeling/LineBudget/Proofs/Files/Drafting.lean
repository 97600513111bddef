import LineBudget.Proofs.Files.Writing
import LineBudget.Proofs.Text.Utf8
import Mathlib

/-! A draft takes the place of a file: whatever is asked of both and written to both, they answer
alike and hold the same text, or nothing. An empty file is not the same as none. -/
namespace LineBudget.Files

/-- A step with a writer: a question whether there is something, or data in one of the two modes. -/
inductive Writer.Step where
  | present
  | truncate (data : String)
  | append (data : String)

inductive StepFailure where
  | present (failure : Failure)
  | write (error : WriteError)

/-- What a step answers, which is nothing for a write, and the state behind it. -/
def Writer.take {σ : Type} (writer : Writer σ) (state : σ) :
    Step → Except StepFailure (Option Bool × σ)
  | .present => match writer.present state with
    | .ok answer => .ok (some answer, state)
    | .error e => .error (.present e)
  | .truncate data => ((writer.write state data "w").mapError .write).map (none, ·)
  | .append data => ((writer.write state data "a").mapError .write).map (none, ·)

/-- The answers of a run and the states behind its steps. It ends at the first step that fails. -/
def Writer.trace {σ : Type} (writer : Writer σ) (state : σ) :
    List Step → Except StepFailure (List (Option Bool × σ))
  | [] => .ok []
  | step :: rest => match writer.take state step with
    | .ok (answer, next) => (writer.trace next rest).map ((answer, next) :: ·)
    | .error e => .error e

/-- The draft has the text of the file to which the path leads. Where it has none, the path leads to a
name that is free in a directory. -/
inductive Disk.Drafted (d : Disk) (p : Path) (draft : Draft) : Prop
  | absent {names : List String} (place : d.place p true = .ok (.vacant names))
    (nothing : draft.content = none) : Drafted d p draft
  | present {names : List String} {text : String} {readable : Bool}
    (place : d.place p true = .ok (.taken names))
    (found : d.root.find? names = some (.file (Text.Utf8.encode text) readable))
    (drafted : draft.content = some text) : Drafted d p draft

variable {d : Disk} {p : Path} {draft : Draft}

theorem Disk.Drafted.pathExists (same : d.Drafted p draft) (clean : Disk.hasNul p = false) :
    d.pathExists p = .ok draft.content.isSome := by
  cases same with
  | absent place nothing => rw [nothing, Disk.pathExists_vacant clean place]; rfl
  | present place found drafted => rw [drafted, Disk.pathExists_taken clean place found]; rfl

/-- A write in either mode succeeds, with the text that the draft has behind the same write. -/
theorem Disk.Drafted.write {mode : String} {opening : Opening} (same : d.Drafted p draft)
    (clean : Disk.hasNul p = false) (opened : Mode.ofText mode = .ok ⟨opening, false⟩)
    (makes : opening = .truncate ∧ mode = "w" ∨ opening = .append ∧ mode ≠ "w") (data : String) :
    ∃ next, d.write p data mode = .ok next ∧ next.Drafted p (draft.write data mode) := by
  rw [Disk.write_making opened (makes.imp And.left And.left) clean]
  cases same with
  | absent place nothing =>
    have replaced := Disk.putFile_replaced (.free place) (Text.Utf8.encode data) true
    obtain ⟨_, found⟩ := replaced.content
    rw [place]
    exact ⟨_, rfl, .present replaced.place found (by rw [Draft.write, nothing])⟩
  | @present names text readable place found drafted =>
    have octets : Mode.apply ⟨opening, false⟩ (Text.Utf8.encode text) (Text.Utf8.encode data) =
        Text.Utf8.encode (if mode = "w" then data else text ++ data) := by
      rcases makes with ⟨rfl, rfl⟩ | ⟨rfl, other⟩
      · rfl
      · rw [if_neg other, Text.Utf8.encode_append]
        rfl
    have replaced := Disk.putFile_replaced (.file place found)
      (Text.Utf8.encode (if mode = "w" then data else text ++ data)) readable
    obtain ⟨_, written⟩ := replaced.content
    rw [place]
    simp only [found, octets]
    exact ⟨_, rfl, .present replaced.place written (by rw [Draft.write, drafted])⟩

theorem Disk.Drafted.take (same : d.Drafted p draft) (clean : Disk.hasNul p = false)
    (step : Writer.Step) : ∃ answer next next', (Writer.file p).take d step = .ok (answer, next) ∧
      Writer.draft.take draft step = .ok (answer, next') ∧ next.Drafted p next' := by
  cases step with
  | present =>
    have answered : (Writer.file p).present d = .ok draft.content.isSome := same.pathExists clean
    refine ⟨some draft.content.isSome, d, draft, ?_, rfl, same⟩
    rw [Writer.take, answered]
  | truncate data =>
    obtain ⟨next, written, same⟩ := same.write clean truncating (.inl ⟨rfl, rfl⟩) data
    have written : (Writer.file p).write d data "w" = .ok next := written
    refine ⟨none, next, _, ?_, rfl, same⟩
    rw [Writer.take, written]
    rfl
  | append data =>
    obtain ⟨next, written, same⟩ := same.write clean appending (.inr ⟨rfl, by decide⟩) data
    have written : (Writer.file p).write d data "a" = .ok next := written
    refine ⟨none, next, _, ?_, rfl, same⟩
    rw [Writer.take, written]
    rfl

/-- A file and a draft that hold the same at the beginning of a run of steps answer every question
alike, no step fails with either of them, and behind every step they hold the same. -/
theorem trace_drafted (p : Path) (clean : Disk.hasNul p = false) (d : Disk) (draft : Draft)
    (same : d.Drafted p draft) (steps : List Writer.Step) :
    ∃ real tried, (Writer.file p).trace d steps = .ok real ∧
      Writer.draft.trace draft steps = .ok tried ∧ real.length = steps.length ∧
      real.map (·.1) = tried.map (·.1) ∧
      List.Forall₂ (fun onDisk inDraft => onDisk.2.Drafted p inDraft.2) real tried := by
  induction steps generalizing d draft with
  | nil => exact ⟨[], [], rfl, rfl, rfl, rfl, .nil⟩
  | cons step rest ih =>
    obtain ⟨answer, next, next', taken, drawn, same⟩ := same.take clean step
    obtain ⟨real, tried, run, run', length, answers, alike⟩ := ih next next' same
    refine ⟨(answer, next) :: real, (answer, next') :: tried, ?_, ?_, congrArg (· + 1) length,
      congrArg (answer :: ·) answers, .cons same alike⟩
    · simp only [Writer.trace, taken, run]
      rfl
    · simp only [Writer.trace, drawn, run']
      rfl

/-- An empty file is there, and it is written on. -/
theorem trace_drafted_empty :
    let p := Path.ofText "a"
    let steps : List Writer.Step := [.present, .append "", .present, .append "é", .truncate "x"]
    ∃ real, (Writer.file p).trace {} steps = .ok real ∧
      real.map (·.1) = [some false, none, some true, none, none] := by
  intro p steps
  have place : ({} : Disk).place p true = .ok (.vacant ["a"]) := by cbv
  obtain ⟨real, tried, run, run', _, answers, _⟩ :=
    trace_drafted p (by decide) {} {} (.absent place rfl) steps
  refine ⟨real, run, ?_⟩
  rw [answers, ← Except.ok.inj run']
  rfl

end LineBudget.Files
