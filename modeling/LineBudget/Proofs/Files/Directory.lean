import LineBudget.Files.Path
import Mathlib.Data.List.DropRight
import Mathlib.Data.List.Induction

/-! The directory that is read off the text of a path. -/
namespace LineBudget.Files

variable {path front last : List Char}

theorem directoryOf_eq (path : List Char) : directoryOf path =
    let head := path.rdropWhile (· ≠ '/')
    if head.all (· = '/') then head else head.rdropWhile (· = '/') := rfl

theorem directoryOf_front (path : List Char) : directoryOf path <+: path := by
  rw [directoryOf_eq]
  dsimp only
  split
  · exact List.rdropWhile_prefix _ _
  · exact (List.rdropWhile_prefix _ _).trans (List.rdropWhile_prefix _ _)

theorem directoryOf_plain (plain : '/' ∉ path) : directoryOf path = [] := by
  have head : path.rdropWhile (· ≠ '/') = [] := by
    rw [List.rdropWhile_eq_nil_iff]
    intro c member
    simpa using fun same : c = '/' => plain (same ▸ member)
  rw [directoryOf_eq, head]
  rfl

theorem directoryOf_split (plain : '/' ∉ last) : directoryOf (front ++ '/' :: last) =
    if front.all (· = '/') then front ++ ['/'] else front.rdropWhile (· = '/') := by
  have head : (front ++ '/' :: last).rdropWhile (· ≠ '/') = front ++ ['/'] := by
    have passed : ∀ c ∈ last.reverse, (decide (c ≠ '/')) = true := by
      intro c member
      simpa using fun same : c = '/' => plain (same ▸ List.mem_reverse.mp member)
    rw [List.rdropWhile, List.reverse_append, List.reverse_cons, List.append_assoc,
      List.dropWhile_append_of_pos passed]
    simp
  rw [directoryOf_eq, head]
  simp

theorem exists_last {c : Char} {text : List Char} (member : c ∈ text) :
    ∃ front last, text = front ++ c :: last ∧ c ∉ last := by
  obtain ⟨last, front, same, plain⟩ := List.eq_append_cons_of_mem (List.mem_reverse.mpr member)
  exact ⟨front.reverse, last.reverse, by simpa using congrArg List.reverse same,
    by simpa using plain⟩

theorem directoryOf_ne_nil (member : '/' ∈ path) : directoryOf path ≠ [] := by
  obtain ⟨front, last, rfl, plain⟩ := exists_last member
  rw [directoryOf_split plain]
  split
  case isTrue => simp
  case isFalse mixed =>
    simpa [List.rdropWhile_eq_nil_iff] using mixed

/-- A slash follows the directory in a path, unless the directory is the root itself. -/
theorem directoryOf_next (member : '/' ∈ path) (below : '/' ∉ directoryOf path) :
    ∃ more, path = directoryOf path ++ '/' :: more := by
  obtain ⟨front, last, rfl, plain⟩ := exists_last member
  rw [directoryOf_split plain] at below ⊢
  split at below
  case isTrue => simp at below
  case isFalse mixed =>
    simp only [mixed, Bool.false_eq_true, if_false]
    have whole : front.rdropWhile (· = '/') ++ front.rtakeWhile (· = '/') = front :=
      List.rdropWhile_append_rtakeWhile
    cases cut : front.rtakeWhile (· = '/') with
    | nil =>
      rw [cut, List.append_nil] at whole
      exact ⟨last, by rw [whole]⟩
    | cons c more =>
      have slash : c ∈ front.rtakeWhile (· = '/') := by simp [cut]
      obtain rfl : c = '/' := by simpa using List.mem_rtakeWhile_imp slash
      rw [cut] at whole
      exact ⟨more ++ '/' :: last, by simpa using congrArg (· ++ '/' :: last) whole.symm⟩

/-- Dropping from the end of a text stops at what it leaves alone. -/
theorem rdropWhile_append_eq_left {p : Char → Bool} (stays : front.rdropWhile p = front) :
    (front ++ last).rdropWhile p = front ↔ ∀ c ∈ last, p c = true := by
  induction last using List.reverseRecOn with
  | nil => simpa using stays
  | append_singleton last c ih =>
    rw [← List.append_assoc]
    by_cases dropped : p c = true
    · rw [List.rdropWhile_concat_pos _ _ _ dropped, ih]
      simp [or_imp, forall_and, dropped]
    · rw [List.rdropWhile_concat_neg _ _ _ dropped]
      refine iff_of_false (fun same => ?_) fun all => dropped (all c (by simp))
      simpa using congrArg List.length same

theorem prefix_rdropWhile {p : Char → Bool} (stays : front.rdropWhile p = front) :
    front <+: (front ++ last).rdropWhile p := by
  induction last using List.reverseRecOn with
  | nil => simp [stays]
  | append_singleton last c ih =>
    rw [← List.append_assoc]
    by_cases dropped : p c = true
    · rwa [List.rdropWhile_concat_pos _ _ _ dropped]
    · rw [List.rdropWhile_concat_neg _ _ _ dropped, List.append_assoc]
      exact List.prefix_append ..

/-- A text that names a directory: it has something in it, and no slash at its end. -/
structure NamesDirectory (text : List Char) : Prop where
  nonempty : text ≠ []
  stays : text.rdropWhile (· = '/') = text

namespace NamesDirectory
variable {directory : List Char}

theorem concat {c : Char} (proper : c ≠ '/') : NamesDirectory (front ++ [c]) where
  nonempty := by simp
  stays := List.rdropWhile_concat_neg _ _ _ (by simpa using proper)

theorem mixed (names : NamesDirectory directory) (more : List Char) :
    (directory ++ more).all (· = '/') = false := by
  rw [Bool.eq_false_iff, ne_eq, List.all_eq_true]
  intro all
  refine names.nonempty (names.stays.symm.trans (List.rdropWhile_eq_nil_iff.mpr fun c member => ?_))
  exact all c (List.mem_append_left more member)

/-- A path that begins with a directory and a slash leads there, or further down. -/
theorem prefix_directoryOf (names : NamesDirectory directory) (more : List Char) :
    directory <+: directoryOf (directory ++ '/' :: more) := by
  by_cases deeper : '/' ∈ more
  · obtain ⟨front, last, rfl, plain⟩ := exists_last deeper
    rw [← List.cons_append, ← List.append_assoc, directoryOf_split plain, names.mixed]
    exact prefix_rdropWhile names.stays
  · have whole := names.mixed []
    rw [List.append_nil] at whole
    rw [directoryOf_split deeper, whole]
    simp [names.stays]

end NamesDirectory
end LineBudget.Files
