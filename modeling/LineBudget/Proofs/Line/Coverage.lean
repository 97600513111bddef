import LineBudget.Proofs.Line.Marker
import Mathlib.Data.Nat.Count

/-! Which lines a block comment covers, told from the lines alone: an opener covers what follows it
up to the next closer, unless it is covered itself. The running state of the automaton after any
number of lines is coverage of the next one, and its count is the number of lines of code. -/
namespace LineBudget.Line
open LineBudget.Language

variable (grammar : Option Grammar) (lines : List (List Char))

/-- There is a grammar, and line `i` is not blank and has a property under it once trimmed. -/
def Holds (property : Grammar → List Char → Prop) (i : Nat) : Prop :=
  ∃ g ∈ grammar, ∃ line ∈ lines[i]?, Text.trim line ≠ [] ∧ property g (Text.trim line)

/-- An opener at `j` that is not covered itself is left open, with no closer in between. -/
def Covered (i : Nat) : Prop :=
  ∃ j, ∃ _ : j < i, Holds grammar lines LeavesOpen j ∧ ¬ Covered j ∧
    ∀ k, j < k → k < i → ¬ Holds grammar lines Closer k
termination_by i

/-- The line is not blank and, where there is a grammar, nothing makes it a comment. -/
def IsCode (i : Nat) : Prop :=
  ∃ line ∈ lines[i]?, Text.trim line ≠ [] ∧ ∀ g ∈ grammar, ¬ Covered grammar lines i ∧
    ¬ Opener g (Text.trim line) ∧ ¬ LineComment g (Text.trim line)

variable {grammar lines}

theorem not_covered_zero : ¬ Covered grammar lines 0 := by
  rw [Covered]
  rintro ⟨j, before, _⟩
  omega

/-- Coverage starts, goes on and ends by the line before alone. -/
theorem covered_succ {i : Nat} : Covered grammar lines (i + 1) ↔
    Covered grammar lines i ∧ ¬ Holds grammar lines Closer i ∨
    ¬ Covered grammar lines i ∧ Holds grammar lines LeavesOpen i := by
  constructor
  · intro covered
    rw [Covered] at covered
    obtain ⟨j, before, opens, free, unclosed⟩ := covered
    rcases Nat.lt_succ_iff_lt_or_eq.mp before with earlier | rfl
    · refine .inl ⟨?_, unclosed i earlier (by omega)⟩
      rw [Covered]
      exact ⟨j, earlier, opens, free, fun k after within => unclosed k after (by omega)⟩
    · exact .inr ⟨free, opens⟩
  · rintro (⟨covered, goesOn⟩ | ⟨free, opens⟩)
    · rw [Covered] at covered ⊢
      obtain ⟨j, before, opens, free, unclosed⟩ := covered
      refine ⟨j, by omega, opens, free, fun k after within => ?_⟩
      rcases Nat.lt_succ_iff_lt_or_eq.mp within with earlier | rfl
      · exact unclosed k after earlier
      · exact goesOn
    · rw [Covered]
      exact ⟨i, by omega, opens, free, fun k after within => by omega⟩

instance (property : Grammar → List Char → Prop) [∀ g line, Decidable (property g line)] (i : Nat) :
    Decidable (Holds grammar lines property i) :=
  inferInstanceAs (Decidable (∃ g ∈ grammar, _))

instance decidableCovered : (i : Nat) → Decidable (Covered grammar lines i)
  | 0 => .isFalse not_covered_zero
  | i + 1 => have := decidableCovered i; decidable_of_iff _ covered_succ.symm

instance (i : Nat) : Decidable (IsCode grammar lines i) :=
  inferInstanceAs (Decidable (∃ line ∈ lines[i]?, _))

variable {line : List Char} {i : Nat} {property : Grammar → List Char → Prop}

theorem not_holds_of_blank (found : lines[i]? = some line) (blank : Text.trim line = []) :
    ¬ Holds grammar lines property i := by
  rintro ⟨g, _, other, here, text, _⟩
  rw [found] at here
  cases here
  exact text blank

theorem not_holds_none : ¬ Holds none lines property i := by
  simp [Holds]

theorem holds_some {g : Grammar} (found : lines[i]? = some line) (text : Text.trim line ≠ []) :
    Holds (some g) lines property i ↔ property g (Text.trim line) := by
  simp [Holds, found, text]

theorem isCode_iff (found : lines[i]? = some line) : IsCode grammar lines i ↔
    Text.trim line ≠ [] ∧ ∀ g ∈ grammar, ¬ Covered grammar lines i ∧
      ¬ Opener g (Text.trim line) ∧ ¬ LineComment g (Text.trim line) := by
  simp [IsCode, found]

/-- What the automaton knows after the first `n` lines, said of the lines alone. -/
structure Agrees (grammar : Option Grammar) (lines : List (List Char)) (n : Nat) (t : Tally) :
    Prop where
  total : t.total = n
  inside : t.block = .inside ↔ Covered grammar lines n
  code : t.code = Nat.count (IsCode grammar lines) n

/-- A line that leaves the block alone counts as much as it is code. -/
theorem Agrees.next {t next : Tally} (agrees : Agrees grammar lines i t)
    (total : next.total = t.total + 1)
    (inside : next.block = .inside ↔ Covered grammar lines (i + 1))
    (code : next.code = t.code + if IsCode grammar lines i then 1 else 0) :
    Agrees grammar lines (i + 1) next where
  total := by rw [total, agrees.total]
  inside := inside
  code := by rw [code, agrees.code, Nat.count_succ]

theorem Agrees.blank {t : Tally} (agrees : Agrees grammar lines i t)
    (found : lines[i]? = some line) (blank : Text.trim line = []) :
    Agrees grammar lines (i + 1) { t with total := t.total + 1 } := by
  refine agrees.next rfl ?_ ?_
  · simp only [covered_succ, not_holds_of_blank found blank, not_false_eq_true, and_true, and_false,
      or_false, agrees.inside]
  · simp [isCode_iff found, blank]

theorem Agrees.plain {t : Tally} (agrees : Agrees none lines i t)
    (found : lines[i]? = some line) (text : Text.trim line ≠ []) :
    Agrees none lines (i + 1) { t with total := t.total + 1, code := t.code + 1 } := by
  refine agrees.next rfl ?_ ?_
  · simp only [covered_succ, not_holds_none, not_false_eq_true, and_true, and_false, or_false,
      agrees.inside]
  · simp [isCode_iff found, text]

/-- One judged line, with the tests of the automaton replaced by what they mean. -/
theorem judge_eq (g : Grammar) (t : Tally) (trimmed : List Char) : t.judge g trimmed =
    if t.block = .inside then
      if Closer g trimmed then { t with block := .outside } else t
    else if Opener g trimmed then
      if SelfClosed g trimmed then t else { t with block := .inside }
    else if LineComment g trimmed then t
    else { t with code := t.code + 1 } := by
  simp only [← closesBlock_iff, ← opensBlock_iff, ← closesItself_iff, ← isLineComment_iff]
  cases block : t.block <;> simp [Tally.judge, block]

theorem Agrees.judge {g : Grammar} {t : Tally} (agrees : Agrees (some g) lines i t)
    (found : lines[i]? = some line) (text : Text.trim line ≠ []) :
    Agrees (some g) lines (i + 1)
      (({ t with total := t.total + 1 } : Tally).judge g (Text.trim line)) := by
  have covered : Covered (some g) lines (i + 1) ↔
      t.block = .inside ∧ ¬ Closer g (Text.trim line) ∨
      ¬ t.block = .inside ∧ LeavesOpen g (Text.trim line) := by
    rw [covered_succ, holds_some found text, holds_some found text, agrees.inside]
  have counted : IsCode (some g) lines i ↔ ¬ t.block = .inside ∧
      ¬ Opener g (Text.trim line) ∧ ¬ LineComment g (Text.trim line) := by
    simp [isCode_iff found, text, agrees.inside]
  rw [judge_eq]
  -- One case for each way through the automaton: inside a block only the block end counts.
  by_cases inside : t.block = .inside
  · by_cases closes : Closer g (Text.trim line)
    · refine agrees.next ?_ ?_ ?_ <;> simp [covered, counted, inside, closes]
    · refine agrees.next ?_ ?_ ?_ <;> simp [covered, counted, inside, closes]
  · by_cases opens : Opener g (Text.trim line)
    · by_cases closed : SelfClosed g (Text.trim line)
      · refine agrees.next ?_ ?_ ?_ <;>
          simp [covered, counted, LeavesOpen, inside, opens, closed]
      · refine agrees.next ?_ ?_ ?_ <;>
          simp [covered, counted, LeavesOpen, inside, opens, closed]
    · by_cases comment : LineComment g (Text.trim line)
      · refine agrees.next ?_ ?_ ?_ <;>
          simp [covered, counted, LeavesOpen, inside, opens, comment]
      · refine agrees.next ?_ ?_ ?_ <;>
          simp [covered, counted, LeavesOpen, inside, opens, comment]

theorem Agrees.add {t : Tally} (agrees : Agrees grammar lines i t)
    (found : lines[i]? = some line) : Agrees grammar lines (i + 1) (t.add grammar line) := by
  by_cases blank : Text.trim line = []
  · simpa [Tally.add, blank] using agrees.blank found blank
  · cases grammar with
    | none => simpa [Tally.add, blank] using agrees.plain found blank
    | some g => simpa [Tally.add, blank] using agrees.judge found blank

/-- The automaton agrees with coverage after every prefix of the lines. -/
theorem classify_agrees (grammar : Option Grammar) (lines : List (List Char)) (n : Nat)
    (within : n ≤ lines.length) : Agrees grammar lines n (classify grammar (lines.take n)) := by
  induction n with
  | zero => exact ⟨rfl, by simp [classify, not_covered_zero], by simp [classify]⟩
  | succ n ih =>
    have found : lines[n]? = some lines[n] := List.getElem?_eq_getElem (by omega)
    have split : lines.take (n + 1) = lines.take n ++ [lines[n]] :=
      (List.take_append_getElem (by omega)).symm
    simpa only [split, classify, List.foldl_append, List.foldl_cons, List.foldl_nil] using
      (ih (by omega)).add found

theorem agrees_whole (grammar : Option Grammar) (lines : List (List Char)) :
    Agrees grammar lines lines.length (classify grammar lines) := by
  have agrees := classify_agrees grammar lines lines.length le_rfl
  rwa [List.take_length] at agrees

/-- The automaton counts every line once, and as code those that are neither blank nor, under a
grammar, covered, openers or line comments. -/
theorem classify_counts (grammar : Option Grammar) (lines : List (List Char)) :
    (classify grammar lines).total = lines.length ∧
    (classify grammar lines).code = Nat.count (IsCode grammar lines) lines.length := by
  have agrees := classify_agrees grammar lines lines.length le_rfl
  rw [List.take_length] at agrees
  exact ⟨agrees.total, agrees.code⟩

end LineBudget.Line
