import LineBudget.Language.Known
import LineBudget.Line.Classify
import LineBudget.Proofs.Text.Trim
import Mathlib.Tactic.SplitIfs

/-! Blanks never make a line code. Two runs over lines that differ in blanks alone go through the
same states: a line is judged by its trimmed text, and a blank line leaves the automaton where it
is, inside of a block as well as outside. -/
namespace LineBudget.Line
open LineBudget.Language LineBudget.Text

/-- The other lines are the lines with blanks added or removed at the ends of some of them, and
with so many lines of blanks put in, at any places. -/
inductive Respaced : Nat → List (List Char) → List (List Char) → Prop where
  | done : Respaced 0 [] []
  | line {inserted : Nat} {line other : List Char} {lines others : List (List Char)} :
      SameCore line other → Respaced inserted lines others →
      Respaced inserted (line :: lines) (other :: others)
  | insert {inserted : Nat} {blank : List Char} {lines others : List (List Char)} :
      Blanks blank → Respaced inserted lines others →
      Respaced (inserted + 1) lines (blank :: others)

/-- The tally after so many more lines that change nothing but the total. -/
def Tally.skip (t : Tally) (n : Nat) : Tally := { t with total := t.total + n }

variable {line other : List Char} {lines others : List (List Char)} {inserted : Nat}

theorem Tally.skip_skip (t : Tally) (m n : Nat) : (t.skip m).skip n = t.skip (m + n) := by
  simp only [skip, Nat.add_assoc]

theorem Tally.judge_skip (g : Grammar) (t : Tally) (n : Nat) (trimmed : List Char) :
    (t.skip n).judge g trimmed = (t.judge g trimmed).skip n := by
  obtain ⟨total, code, block⟩ := t
  cases block with
  | inside =>
    simp only [judge, skip]
    split <;> rfl
  | outside =>
    simp only [judge, skip]
    split_ifs <;> rfl

theorem Tally.add_blanks (grammar : Option Grammar) (t : Tally) (blank : Blanks line) :
    t.add grammar line = t.skip 1 := by
  simp [add, skip, trim_of_blanks blank]

/-- The automaton never looks at the total. -/
theorem Tally.add_skip (grammar : Option Grammar) (t : Tally) (n : Nat) (line : List Char) :
    (t.skip n).add grammar line = (t.add grammar line).skip n := by
  have counted : ({ t.skip n with total := (t.skip n).total + 1 } : Tally) =
      ({ t with total := t.total + 1 } : Tally).skip n := by
    simp only [skip, Nat.add_right_comm]
  unfold add
  rw [counted]
  dsimp only
  split
  · rfl
  · cases grammar with
    | none => rfl
    | some g => exact judge_skip g _ n (trim line)

theorem Tally.add_sameCore (grammar : Option Grammar) (t : Tally) (same : SameCore line other) :
    t.add grammar other = t.add grammar line := by
  simp only [add, sameCore_iff.mp same]

theorem foldl_skip (grammar : Option Grammar) (t : Tally) (n : Nat) (lines : List (List Char)) :
    lines.foldl (Tally.add grammar) (t.skip n) =
      (lines.foldl (Tally.add grammar) t).skip n := by
  induction lines generalizing t with
  | nil => rfl
  | cons line rest ih => rw [List.foldl_cons, List.foldl_cons, Tally.add_skip, ih]

/-- From any state, both runs end in the same state but for the total. -/
theorem foldl_respaced (respaced : Respaced inserted lines others) (grammar : Option Grammar)
    (t : Tally) : others.foldl (Tally.add grammar) t =
      (lines.foldl (Tally.add grammar) t).skip inserted := by
  induction respaced generalizing t with
  | done => rfl
  | line same _ ih => rw [List.foldl_cons, List.foldl_cons, Tally.add_sameCore grammar t same, ih]
  | insert blank _ ih =>
    rw [List.foldl_cons, Tally.add_blanks grammar t blank, foldl_skip, ih, Tally.skip_skip]

theorem classify_skip (grammar : Option Grammar) (respaced : Respaced inserted lines others) :
    classify grammar others = (classify grammar lines).skip inserted :=
  foldl_respaced respaced grammar {}

/-- Lines are their own filled lines with the blank ones put in. -/
theorem respaced_filled (lines : List (List Char)) :
    Respaced (lines.countP (Blanks ·)) (lines.filter (¬ Blanks ·)) lines := by
  induction lines with
  | nil => exact .done
  | cons line rest ih =>
    by_cases blank : Blanks line
    · rw [List.countP_cons_of_pos (by simpa using blank),
        List.filter_cons_of_neg (by simpa using blank)]
      exact .insert blank ih
    · rw [List.countP_cons_of_neg (by simpa using blank),
        List.filter_cons_of_pos (by simpa using blank)]
      exact .line (sameCore_iff.mpr rfl) ih

/-- Changing the blanks at the ends of lines and putting in blank lines, also within an open block,
leaves the count of code as it is and the automaton in the same state. The total grows by the lines
that were put in. -/
theorem classify_respaced (grammar : Option Grammar) {lines others : List (List Char)}
    {inserted : Nat} (respaced : Respaced inserted lines others) :
    (classify grammar others).code = (classify grammar lines).code ∧
    (classify grammar others).total = (classify grammar lines).total + inserted ∧
    (classify grammar others).block = (classify grammar lines).block := by
  rw [classify_skip grammar respaced]
  exact ⟨rfl, rfl, rfl⟩

/-- A line of blanks within an open block, an empty line behind it, and blanks around the marker
that opens it. -/
theorem classify_respaced_block :
    let grammar := some (slashed "Go" [".go"])
    let lines := ["/* a".toList, "b */ x".toList, "y".toList]
    let others := ["\t/* a\u3000".toList, "\u2003".toList, "b */ x".toList, [], " y ".toList]
    Respaced 2 lines others ∧ (classify grammar lines).code = 1 ∧
    (classify grammar others).code = 1 ∧ (classify grammar others).total = 5 := by
  intro grammar lines others
  have respaced : Respaced 2 lines others :=
    .line (by decide) (.insert (by decide) (.line (by decide) (.insert (by decide)
      (.line (by decide) .done))))
  have run : classify grammar lines = ⟨3, 1, .outside⟩ := by decide
  obtain ⟨code, total, _⟩ := classify_respaced grammar respaced
  rw [run] at code total
  exact ⟨respaced, congrArg Tally.code run, code, total⟩

end LineBudget.Line
