import LineBudget.Line.Classify
import Mathlib.Data.List.Basic

/-! Deleting the lines that are not code. A line is counted only outside of a block, and it leaves
none open, so that the lines that were counted are counted again when nothing stands between them. -/
namespace LineBudget.Line
open LineBudget.Language
open scoped List

variable {α : Type} {grammar : Option Grammar} {text : α → List Char} {items : List α}
  {line : List Char} {lines : List (List Char)} {t : Tally}

/-- The items at which the running count of code goes up. Each item has the text of a line. -/
def keepCode (grammar : Option Grammar) (text : α → List Char) (items : List α) : List α :=
  let counts := codeTrace grammar (items.map text)
  (items.zip ((0 :: counts).zip counts)).filterMap fun (item, before, after) =>
    if before < after then some item else none

/-- The same with the automaton in the state that it has reached before the items. -/
def keepFrom (grammar : Option Grammar) (text : α → List Char) (t : Tally) : List α → List α
  | [] => []
  | item :: rest =>
    let next := t.add grammar (text item)
    if t.code < next.code then item :: keepFrom grammar text next rest
    else keepFrom grammar text next rest

/-- Outside of a block, the line adds one to the count of code and leaves no block open. -/
def AddsCode (grammar : Option Grammar) (line : List Char) : Prop :=
  ∀ t : Tally, t.block = .outside → t.add grammar line = ⟨t.total + 1, t.code + 1, .outside⟩

theorem keepCode_eq (grammar : Option Grammar) (text : α → List Char) (items : List α) :
    keepCode grammar text items = keepFrom grammar text {} items := by
  have onward (t : Tally) :
      (items.zip ((t.code :: codeTrace.go grammar t (items.map text)).zip
        (codeTrace.go grammar t (items.map text)))).filterMap
          (fun (item, before, after) => if before < after then some item else none) =
        keepFrom grammar text t items := by
    induction items generalizing t with
    | nil => rfl
    | cons item rest ih =>
      have later := ih (t.add grammar (text item))
      simp only [List.map_cons, codeTrace.go, List.zip_cons_cons, List.filterMap_cons, keepFrom]
      by_cases more : t.code < (t.add grammar (text item)).code
      · simp only [more, if_true, later]
      · simp only [more, if_false, later]
  exact onward {}

theorem keepFrom_sublist (t : Tally) (items : List α) : keepFrom grammar text t items <+ items := by
  induction items generalizing t with
  | nil => exact .slnil
  | cons item rest ih =>
    rw [keepFrom]
    split
    · exact (ih _).cons_cons item
    · exact (ih _).cons item

/-- Judging a line either leaves the count alone or counts the line, which then is code wherever no
block is open. -/
theorem judge_code (g : Grammar) (t : Tally) (trimmed : List Char) :
    (t.judge g trimmed).code = t.code ∨
    (t.judge g trimmed).code = t.code + 1 ∧ ∀ u : Tally, u.block = .outside →
      u.judge g trimmed = { u with code := u.code + 1 } := by
  unfold Tally.judge
  cases t.block with
  | inside =>
    left
    dsimp only
    split <;> rfl
  | outside =>
    by_cases opens : (g.hasBlocks && opensBlock g trimmed) = true
    · left
      simp only [opens, if_true]
      split <;> rfl
    · by_cases comment : isLineComment g trimmed = true
      · left
        simp only [opens, comment, if_true, Bool.false_eq_true, if_false]
      · right
        simp only [opens, comment, Bool.false_eq_true, if_false, true_and]
        intro u outside
        rw [outside]

theorem add_code (grammar : Option Grammar) (t : Tally) (line : List Char) :
    (t.add grammar line).code = t.code ∨
    (t.add grammar line).code = t.code + 1 ∧ AddsCode grammar line := by
  by_cases blank : (Text.trim line).isEmpty = true
  · left
    simp only [Tally.add, blank, if_true]
  · cases grammar with
    | none =>
      right
      simp only [AddsCode, Tally.add, blank, Bool.false_eq_true, if_false, true_and]
      intro u outside
      rw [outside]
    | some g =>
      rcases judge_code g { t with total := t.total + 1 } (Text.trim line) with same | ⟨more, always⟩
      · left
        simpa only [Tally.add, blank, Bool.false_eq_true, if_false] using same
      · right
        simp only [AddsCode, Tally.add, blank, Bool.false_eq_true, if_false]
        refine ⟨more, fun u outside => ?_⟩
        rw [always { u with total := u.total + 1 } outside, outside]

theorem addsCode_of_mem (t : Tally) {item : α} (kept : item ∈ keepFrom grammar text t items) :
    AddsCode grammar (text item) := by
  induction items generalizing t with
  | nil => cases kept
  | cons first rest ih =>
    rw [keepFrom] at kept
    split at kept
    case isTrue more =>
      rcases List.mem_cons.mp kept with rfl | later
      · rcases add_code grammar t (text item) with same | ⟨_, adds⟩
        · omega
        · exact adds
      · exact ih _ later
    case isFalse => exact ih _ kept

/-- As many lines are kept as the count goes up by. -/
theorem code_foldl (t : Tally) (items : List α) :
    ((items.map text).foldl (Tally.add grammar) t).code =
      t.code + (keepFrom grammar text t items).length := by
  induction items generalizing t with
  | nil => rfl
  | cons item rest ih =>
    rw [List.map_cons, List.foldl_cons, ih, keepFrom]
    rcases add_code grammar t (text item) with same | ⟨more, _⟩
    · rw [if_neg (by omega), same]
    · rw [if_pos (by omega), more, List.length_cons]
      omega

/-- Lines that add code are all counted, each of them in a state that the one before has left. -/
theorem foldl_addsCode (all : ∀ line ∈ lines, AddsCode grammar line) (outside : t.block = .outside) :
    lines.foldl (Tally.add grammar) t = ⟨t.total + lines.length, t.code + lines.length, .outside⟩ := by
  induction lines generalizing t with
  | nil =>
    rw [← outside]
    rfl
  | cons line rest ih =>
    obtain ⟨first, later⟩ := List.forall_mem_cons.mp all
    rw [List.foldl_cons, first t outside, ih later rfl, List.length_cons]
    simp only [Tally.mk.injEq, and_true]
    omega

theorem keepFrom_addsCode (all : ∀ item ∈ items, AddsCode grammar (text item))
    (outside : t.block = .outside) : keepFrom grammar text t items = items := by
  induction items generalizing t with
  | nil => rfl
  | cons item rest ih =>
    obtain ⟨first, later⟩ := List.forall_mem_cons.mp all
    rw [keepFrom, first t outside]
    dsimp only
    rw [if_pos (Nat.lt_succ_self _), ih later rfl]

section Kept

theorem keepCode_sublist (grammar : Option Grammar) (text : α → List Char) (items : List α) :
    keepCode grammar text items <+ items :=
  keepCode_eq grammar text items ▸ keepFrom_sublist {} items

theorem length_keepCode (grammar : Option Grammar) (text : α → List Char) (items : List α) :
    (keepCode grammar text items).length = (classify grammar (items.map text)).code := by
  rw [keepCode_eq, classify, code_foldl]
  exact (Nat.zero_add _).symm

/-- Nothing that was kept is deleted by a second pass. -/
theorem keepCode_keepCode (grammar : Option Grammar) (text : α → List Char) (items : List α) :
    keepCode grammar text (keepCode grammar text items) = keepCode grammar text items := by
  rw [keepCode_eq grammar text items, keepCode_eq]
  exact keepFrom_addsCode (fun _ => addsCode_of_mem {}) rfl

/-- What was kept consists of code alone. -/
theorem classify_kept (grammar : Option Grammar) (text : α → List Char) (items : List α) :
    let kept := keepCode grammar text items
    classify grammar (kept.map text) = ⟨kept.length, kept.length, .outside⟩ := by
  intro kept
  have all : ∀ line ∈ kept.map text, AddsCode grammar line := by
    intro line member
    obtain ⟨item, there, rfl⟩ := List.mem_map.mp member
    rw [show kept = keepFrom grammar text {} items from keepCode_eq grammar text items] at there
    exact addsCode_of_mem {} there
  rw [classify, foldl_addsCode all rfl, List.length_map]
  simp only [Nat.zero_add]

end Kept
end LineBudget.Line
