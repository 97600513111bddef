import LineBudget.Analysis.Report
import LineBudget.Proofs.Files.Directory
import LineBudget.Proofs.Scan.Listing

/-! Which files a report adds to the directory that they stand in. It reads the directory off the
path of a file, where a backslash passes for a slash, so that names with backslashes can lead
elsewhere. -/
namespace LineBudget.Analysis
open LineBudget.Files LineBudget.Scan

/-- Backslashes stand in a text only in front of all else. -/
def BackslashesLead (text : List Char) : Prop := '\\' ∉ text.dropWhile (· = '\\')

instance (text : List Char) : Decidable (BackslashesLead text) :=
  inferInstanceAs (Decidable ('\\' ∉ _))

/-- A file whose directory is read off its path rightly: no directory on the way has a backslash in
its name, and the file has backslashes only where they double the slash in front of it. Directly in
the target, only a dot can stand for what is in front. -/
def Placed (names : List String) : Prop :=
  (∀ part ∈ names.dropLast, '\\' ∉ part.toList) ∧
    let name := (names.getLastD "").toList
    if names.dropLast = [] then
      '\\' ∉ name ∨ (['.', '\\'] <+: name ∧ BackslashesLead (name.drop 2))
    else BackslashesLead name

instance (names : List String) : Decidable (Placed names) := inferInstanceAs (Decidable (_ ∧ _))

/-- The characters of a path with slashes only. -/
def slashes (text : List Char) : List Char := text.map fun c => if c = '\\' then '/' else c

section
variable {place text front last : List Char}

theorem slashes_eq_self (plain : '\\' ∉ text) : slashes text = text := by
  refine (List.map_congr_left fun c member => ?_).trans (List.map_id text)
  exact if_neg fun same : c = '\\' => plain (same ▸ member)

theorem not_mem_slashes (text : List Char) : '\\' ∉ slashes text := by
  intro member
  obtain ⟨c, _, same⟩ := List.mem_map.mp member
  split at same <;> simp_all

theorem slashes_append (front last : List Char) :
    slashes (front ++ last) = slashes front ++ slashes last := List.map_append

theorem mem_slashes (plain : '/' ∉ text) : '/' ∈ slashes text ↔ '\\' ∈ text := by
  constructor
  · intro member
    obtain ⟨c, inside, same⟩ := List.mem_map.mp member
    split at same
    case isTrue backslash => exact backslash ▸ inside
    case isFalse => exact absurd (same ▸ inside) plain
  · exact fun member => List.mem_map.mpr ⟨_, member, rfl⟩

theorem backslashesLead_iff (plain : '\\' ∉ last) :
    BackslashesLead (front ++ '\\' :: last) ↔ ∀ c ∈ front, c = '\\' := by
  unfold BackslashesLead
  constructor
  · intro lead c member
    by_contra other
    rw [List.dropWhile_append, if_neg] at lead
    · exact lead (by simp)
    · intro none
      exact other (by simpa using List.dropWhile_eq_nil_iff.mp (List.isEmpty_iff.mp none) c member)
  · intro all
    rw [List.dropWhile_append_of_pos (by simpa using all), List.dropWhile_cons_of_pos (by simp)]
    exact fun member => plain ((List.dropWhile_sublist _).mem member)

/-- Behind a directory and a slash, the path leads to the directory exactly if backslashes lead. -/
theorem directoryOf_behind {directory : List Char} (names : NamesDirectory directory)
    (plain : '/' ∉ text) :
    Files.directoryOf (directory ++ '/' :: slashes text) = directory ↔ BackslashesLead text := by
  by_cases member : '\\' ∈ text
  -- The last slash of the path is the last backslash of the name.
  · obtain ⟨front, last, rfl, none⟩ := exists_last member
    have split : directory ++ '/' :: slashes (front ++ '\\' :: last) =
        (directory ++ '/' :: slashes front) ++ '/' :: last := by
      simp only [slashes_append, List.append_assoc, List.cons_append]
      rw [show slashes ('\\' :: last) = '/' :: slashes last from rfl, slashes_eq_self none]
    rw [split, directoryOf_split fun slash => plain (by simp [slash]), names.mixed]
    simp only [Bool.false_eq_true, if_false]
    rw [rdropWhile_append_eq_left names.stays, backslashesLead_iff none]
    constructor
    · intro all c there
      have mapped := all _ (List.mem_cons_of_mem _ (List.mem_map_of_mem there))
      by_contra other
      rw [if_neg other] at mapped
      obtain rfl := of_decide_eq_true mapped
      exact plain (List.mem_append_left _ there)
    · intro all c there
      rcases List.mem_cons.mp there with rfl | there
      · rfl
      · obtain ⟨d, inside, rfl⟩ := List.mem_map.mp there
        simp [all d inside]
  · have whole := names.mixed []
    rw [List.append_nil] at whole
    rw [slashes_eq_self member, directoryOf_split plain, whole]
    refine iff_of_true names.stays fun inside => member ((List.dropWhile_sublist _).mem inside)

/-- A single dot stands in front of the first slash exactly if a backslash follows it. -/
theorem dot_first (plain : '/' ∉ text) :
    ['.', '/'] <+: slashes text ↔ ['.', '\\'] <+: text := by
  match text with
  | [] => simp [slashes]
  | [c] => simp [slashes]
  | c :: d :: rest =>
    have other : d ≠ '/' := by
      rintro rfl
      exact plain (by simp)
    simp only [slashes, List.map_cons, List.cons_prefix_cons, List.nil_prefix, and_true]
    constructor
    · rintro ⟨dot, slash⟩
      split at slash
      case isTrue backslash =>
        split at dot
        case isTrue => simp at dot
        case isFalse => exact ⟨dot, backslash.symm⟩
      case isFalse => exact absurd slash.symm other
    · rintro ⟨rfl, rfl⟩
      simp

theorem directoryOf_dot (plain : '/' ∉ text) (member : '\\' ∈ text) :
    Files.directoryOf (slashes text) = ['.'] ↔
      ['.', '\\'] <+: text ∧ BackslashesLead (text.drop 2) := by
  have dot : NamesDirectory ([] ++ ['.']) := .concat (by decide)
  have behind {rest : List Char} (whole : text = '.' :: '\\' :: rest) :
      Files.directoryOf (slashes text) = ['.'] ↔ BackslashesLead rest := by
    have plain : '/' ∉ rest := fun slash => plain (by simp [whole, slash])
    rw [← directoryOf_behind dot plain, whole]
    rfl
  constructor
  · intro top
    obtain ⟨more, split⟩ := directoryOf_next ((mem_slashes plain).mpr member) (by rw [top]; decide)
    obtain ⟨rest, whole⟩ := (dot_first plain).mp ⟨more, by rw [split, top]; rfl⟩
    subst whole
    exact ⟨⟨rest, rfl⟩, (behind rfl).mp top⟩
  · rintro ⟨⟨rest, rfl⟩, lead⟩
    exact (behind rfl).mpr lead

end

section
variable {path place : String}

theorem toList_slashed (path : String) : (slashed path).toList = slashes path.toList := by
  simp [slashed, slashes]

theorem directoryOf_flat (flat : '/' ∉ slashes path.toList) : directoryOf path = "." := by
  simp [directoryOf, toList_slashed, directoryOf_plain flat]

theorem directoryOf_eq_iff (deep : '/' ∈ slashes path.toList) :
    directoryOf path = place ↔ Files.directoryOf (slashes path.toList) = place.toList := by
  have nonempty := directoryOf_ne_nil deep
  simp only [directoryOf, toList_slashed]
  rw [if_neg (by simpa using nonempty), ← String.toList_inj, String.toList_ofList]

theorem not_mem_directoryOf (path : String) : '\\' ∉ (directoryOf path).toList := by
  by_cases deep : '/' ∈ slashes path.toList
  · rw [← (directoryOf_eq_iff deep).mp rfl]
    exact fun member => not_mem_slashes _ ((directoryOf_front _).mem member)
  · rw [directoryOf_flat deep]
    decide

theorem directoryOf_nonempty (path : String) : directoryOf path ≠ "" := by
  by_cases deep : '/' ∈ slashes path.toList
  · intro none
    exact directoryOf_ne_nil deep ((directoryOf_eq_iff deep).mp none)
  · rw [directoryOf_flat deep]
    decide

end

section
variable {above : List String} {name : String} {e : Entry}

theorem mem_intercalate {c : Char} (other : c ≠ '/') :
    c ∈ ("/".intercalate above).toList ↔ ∃ part ∈ above, c ∈ part.toList := by
  induction above with
  | nil => simp
  | cons first rest ih =>
    cases rest with
    | nil => simp
    | cons next rest =>
      rw [String.intercalate_cons_cons, String.toList_append, String.toList_append,
        List.mem_append, List.mem_append, ih]
      simp [other]

theorem intercalate_names (nonempty : above ≠ []) (proper : ∀ part ∈ above, ProperName part) :
    NamesDirectory ("/".intercalate above).toList := by
  obtain ⟨first, last, rfl⟩ := (List.eq_nil_or_concat above).resolve_left nonempty
  obtain ⟨named, _, plain⟩ := proper last (by simp)
  obtain ⟨front, c, letters⟩ :=
    (List.eq_nil_or_concat last.toList).resolve_left (by simpa using named)
  rw [List.concat_eq_append] at letters ⊢
  have other : c ≠ '/' := by
    rintro rfl
    exact plain (by simp [letters])
  cases first with
  | nil =>
    rw [List.nil_append, String.intercalate_singleton, letters]
    exact .concat other
  | cons start more =>
    rw [String.intercalate_append_of_ne_nil (by simp) (by simp), String.intercalate_singleton,
      String.toList_append, letters, ← List.append_assoc]
    exact .concat other

/-- Directly in the target, a path has the right directory where it has no backslash, or where it
begins with a dot that one follows. -/
theorem directoryOf_top (plain : '/' ∉ name.toList) : directoryOf name = "." ↔
    '\\' ∉ name.toList ∨
      (['.', '\\'] <+: name.toList ∧ BackslashesLead (name.toList.drop 2)) := by
  by_cases member : '\\' ∈ name.toList
  · rw [directoryOf_eq_iff ((mem_slashes plain).mpr member), ← directoryOf_dot plain member]
    simp [member]
  · exact iff_of_true (directoryOf_flat fun deep => member ((mem_slashes plain).mp deep))
      (.inl member)

theorem slashes_joined {directory path : String} (clear : '\\' ∉ directory.toList)
    (joined : path = directory ++ "/" ++ name) :
    slashes path.toList = directory.toList ++ '/' :: slashes name.toList := by
  rw [joined, String.toList_append, String.toList_append, slashes_append, slashes_append,
    slashes_eq_self clear]
  simp [slashes]

/-- Below a directory, a path has the right directory where the directory has no backslash, and the
name no backslash behind something else. -/
theorem directoryOf_below (nonempty : above ≠ []) (proper : ∀ part ∈ above, ProperName part)
    (plain : '/' ∉ name.toList) {path : String}
    (joined : path = "/".intercalate above ++ "/" ++ name) :
    directoryOf path = "/".intercalate above ↔
      (∀ part ∈ above, '\\' ∉ part.toList) ∧ BackslashesLead name.toList := by
  have names := intercalate_names nonempty proper
  by_cases clear : '\\' ∈ ("/".intercalate above).toList
  · refine iff_of_false (fun same => not_mem_directoryOf path (same ▸ clear)) fun ⟨without, _⟩ => ?_
    obtain ⟨part, inside, there⟩ := (mem_intercalate (by decide)).mp clear
    exact without part inside there
  · have without : ∀ part ∈ above, '\\' ∉ part.toList := fun part inside there =>
      clear ((mem_intercalate (by decide)).mpr ⟨part, inside, there⟩)
    have letters := slashes_joined clear joined
    rw [directoryOf_eq_iff (by simp [letters]), letters, directoryOf_behind names plain]
    exact ⟨fun lead => ⟨without, lead⟩, And.right⟩

/-- The directory of a path is the one that the file stands in exactly if the file is placed. -/
theorem directoryOf_eq_directory (nonempty : e.names ≠ [])
    (proper : ∀ part ∈ e.names, ProperName part) :
    directoryOf e.path = e.directory ↔ Placed e.names := by
  obtain ⟨above, name, names, top, below⟩ := e.exists_above nonempty
  have plain : '/' ∉ name.toList := (proper name (by simp [names])).2.2
  simp only [Placed, names, List.dropLast_concat, List.getLastD_concat]
  by_cases here : above = []
  · obtain ⟨directory, path⟩ := top here
    rw [directory, path, directoryOf_top plain]
    simp [here]
  · obtain ⟨directory, path⟩ := below here
    have parts : ∀ part ∈ above, ProperName part := fun part inside =>
      proper part (by simp [names, inside])
    rw [directory] at path ⊢
    rw [directoryOf_below here parts plain path]
    simp [here]

/-- How far below the target a directory can be. -/
def depth (place : String) : Nat := if place = "." then 0 else place.length

/-- A wrong directory is further down than the right one, or the right one is the directory of no
path at all. -/
theorem directoryOf_deeper (nonempty : e.names ≠ []) (proper : ∀ part ∈ e.names, ProperName part)
    (wrong : directoryOf e.path ≠ e.directory) :
    depth e.directory < depth (directoryOf e.path) ∨ ∀ path, directoryOf path ≠ e.directory := by
  by_cases clear : '\\' ∈ e.directory.toList
  · exact .inr fun path same => not_mem_directoryOf path (same ▸ clear)
  · left
    obtain ⟨above, name, names, top, below⟩ := e.exists_above nonempty
    by_cases here : above = []
    · obtain ⟨directory, _⟩ := top here
      rw [directory] at wrong ⊢
      have := mt String.length_eq_zero_iff.mp (directoryOf_nonempty e.path)
      simp only [depth, wrong, if_true, if_false]
      omega
    -- Below a directory without backslashes, the directory stays in front of what is read off.
    · obtain ⟨directory, path⟩ := below here
      have letters := slashes_joined clear path
      have parts : ∀ part ∈ above, ProperName part := fun part inside =>
        proper part (by simp [names, inside])
      have place : NamesDirectory e.directory.toList := directory ▸ intercalate_names here parts
      have further : e.directory.toList <+: (directoryOf e.path).toList := by
        rw [← (directoryOf_eq_iff (by simp [letters])).mp rfl, letters]
        exact place.prefix_directoryOf _
      have shorter : e.directory.length < (directoryOf e.path).length := by
        simp only [← String.length_toList]
        refine lt_of_le_of_ne further.length_le fun same => wrong ?_
        exact (String.toList_inj.mp (further.eq_of_length same)).symm
      have some : 0 < e.directory.length := by
        simpa [← String.length_toList, List.length_pos_iff] using place.nonempty
      have dot : directoryOf e.path ≠ "." := by
        intro same
        rw [same, show ".".length = 1 from rfl] at shorter
        omega
      have bound : depth e.directory ≤ e.directory.length := by
        unfold depth
        split <;> omega
      rw [show depth (directoryOf e.path) = (directoryOf e.path).length from if_neg dot]
      omega

end
end LineBudget.Analysis
