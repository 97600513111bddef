import LineBudget.Text.Blank
import Mathlib.Data.List.DropRight

/-! What trimming cannot see: the blanks at either end of a text, however many, and nothing else. -/
namespace LineBudget.Text

/-- A text of blanks alone; the empty text is one. -/
def Blanks (text : List Char) : Prop := ∀ c ∈ text, isBlank c = true

instance (text : List Char) : Decidable (Blanks text) := List.decidableBAll _ text

/-- The text is the core with blanks in front of it and behind it. -/
def Padded (core text : List Char) : Prop :=
  ∃ before after, Blanks before ∧ Blanks after ∧ text = before ++ core ++ after

/-- Two texts that differ in the blanks at their ends at most. -/
def SameCore (text other : List Char) : Prop := ∃ core, Padded core text ∧ Padded core other

variable {before core after text other : List Char}

theorem trimStart_eq_nil_iff : trimStart text = [] ↔ Blanks text := List.dropWhile_eq_nil_iff

theorem trimStart_append (front : Blanks before) (text : List Char) :
    trimStart (before ++ text) = trimStart text := List.dropWhile_append_of_pos front

theorem trimEnd_append (text : List Char) (back : Blanks after) :
    trimEnd (text ++ after) = trimEnd text := by
  have reversed : ∀ c ∈ after.reverse, isBlank c = true := fun c member =>
    back c (List.mem_reverse.mp member)
  rw [trimEnd, List.reverse_append, List.dropWhile_append_of_pos reversed, trimEnd]

theorem trim_of_blanks (blank : Blanks text) : trim text = [] := by
  rw [trim, trimStart_eq_nil_iff.mpr blank]
  rfl

theorem Padded.trim_eq (padded : Padded core text) : trim text = trim core := by
  obtain ⟨before, after, front, back, rfl⟩ := padded
  rw [List.append_assoc, trim, trimStart_append front]
  by_cases blank : Blanks core
  -- A core of blanks is eaten up from the front together with all that is behind it.
  · have whole : Blanks (core ++ after) := List.forall_mem_append.mpr ⟨blank, back⟩
    rw [trimStart_eq_nil_iff.mpr whole, trim_of_blanks blank]
    rfl
  · have some : ¬ (core.dropWhile isBlank).isEmpty = true := fun none =>
      blank (trimStart_eq_nil_iff.mp (List.isEmpty_iff.mp none))
    rw [trimStart, List.dropWhile_append, if_neg some, trimEnd_append _ back]
    rfl

/-- Trimming takes nothing but blanks away. -/
theorem padded_trim (text : List Char) : Padded (trim text) text := by
  have front : Blanks (text.takeWhile isBlank) := fun _ => List.mem_takeWhile_imp
  have back : Blanks ((trimStart text).rtakeWhile isBlank) := fun _ => List.mem_rtakeWhile_imp
  have ending : trim text ++ (trimStart text).rtakeWhile isBlank = trimStart text :=
    List.rdropWhile_append_rtakeWhile
  refine ⟨_, _, front, back, ?_⟩
  rw [List.append_assoc, ending, trimStart, List.takeWhile_append_dropWhile]

theorem trim_trim (text : List Char) : trim (trim text) = trim text :=
  (padded_trim text).trim_eq.symm

theorem mem_of_mem_trim {c : Char} (member : c ∈ trim text) : c ∈ text := by
  obtain ⟨before, after, _, _, whole⟩ := padded_trim text
  rw [whole]
  exact List.mem_append_left _ (List.mem_append_right _ member)

/-- A trimmed text does not begin with a blank. -/
theorem head?_trim {c : Char} (first : c ∈ (trim text).head?) : isBlank c = false := by
  obtain ⟨rest, whole⟩ := List.rdropWhile_prefix isBlank (l := trimStart text)
  have start : (trimStart text).head? = some c := by
    have kept : ((trimStart text).rdropWhile isBlank).head? = some c := first
    rw [← whole, List.head?_append, kept, Option.some_or]
  have stopped := List.head?_dropWhile_not isBlank text
  rwa [← trimStart, start] at stopped

/-- A trimmed text does not end with a blank. -/
theorem getLast?_trim {c : Char} (last : c ∈ (trim text).getLast?) : isBlank c = false := by
  have stopped := List.head?_dropWhile_not isBlank (trimStart text).reverse
  have final : ((trimStart text).reverse.dropWhile isBlank).head? = some c := by
    rw [← last, trim, trimEnd, List.getLast?_reverse]
  rwa [final] at stopped

theorem trim_eq_nil_iff : trim text = [] ↔ Blanks text := by
  refine ⟨fun nothing => ?_, trim_of_blanks⟩
  obtain ⟨before, after, front, back, whole⟩ := padded_trim text
  rw [nothing, List.append_nil] at whole
  rw [whole]
  exact List.forall_mem_append.mpr ⟨front, back⟩

/-- Trimming tells two texts apart exactly if they differ in more than the blanks at their ends. -/
theorem sameCore_iff : SameCore text other ↔ trim text = trim other := by
  constructor
  · rintro ⟨core, padded, padded'⟩
    exact padded.trim_eq.trans padded'.trim_eq.symm
  · intro same
    exact ⟨trim text, padded_trim text, same ▸ padded_trim other⟩

instance (text other : List Char) : Decidable (SameCore text other) :=
  decidable_of_iff _ sameCore_iff.symm

end LineBudget.Text
