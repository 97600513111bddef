import LineBudget.Proofs.Files.Directory
import LineBudget.Proofs.Files.Lookup
import LineBudget.Proofs.Language.Table
import LineBudget.Proofs.Scan.Listing
import Mathlib

/-! The grammar of a file is told from the last name of its path: neither the directories above nor
dots in their names have a part in it. A grammar is told from how that name ends. -/
namespace LineBudget.Language
open LineBudget.Files

/-- The last name of a path: what stands behind its last slash, or the whole path without one. -/
structure IsBaseName (path name : List Char) : Prop where
  plain : '/' ∉ name
  last : path = name ∨ ∃ front, path = front ++ '/' :: name

/-- The name ends with an extension of the grammar. -/
def Grammar.Ends (g : Grammar) (name : List Char) : Prop :=
  ∃ extension ∈ g.extensions, extension.toList <:+ name

variable {path front last word : List Char} {name : String} {g other : Grammar}

theorem baseName_slash (plain : '/' ∉ last) : baseName (front ++ '/' :: last) = last := by
  have passed : ∀ c ∈ last.reverse, (c != '/') = true := by
    intro c member
    simpa using fun same : c = '/' => plain (same ▸ List.mem_reverse.mp member)
  rw [baseName, List.reverse_append, List.reverse_cons, List.append_assoc,
    List.takeWhile_append_of_pos passed]
  simp

theorem baseName_plain (plain : '/' ∉ last) : baseName last = last := by
  rw [baseName, List.takeWhile_eq_self_iff.mpr, List.reverse_reverse]
  intro c member
  simpa using fun same : c = '/' => plain (same ▸ List.mem_reverse.mp member)

theorem isBaseName_iff {name : List Char} : IsBaseName path name ↔ name = baseName path := by
  constructor
  · rintro ⟨plain, rfl | ⟨front, rfl⟩⟩
    · exact (baseName_plain plain).symm
    · exact (baseName_slash plain).symm
  · rintro rfl
    by_cases deeper : '/' ∈ path
    · obtain ⟨front, last, rfl, plain⟩ := exists_last deeper
      rw [baseName_slash plain]
      exact ⟨plain, .inr ⟨front, rfl⟩⟩
    · rw [baseName_plain deeper]
      exact ⟨deeper, .inl rfl⟩

theorem extensionOf_dot (plain : '.' ∉ word) (named : baseName path = front ++ '.' :: word) :
    extensionOf path = '.' :: word := by
  have passed : ∀ c ∈ word.reverse, (c != '.') = true := by
    intro c member
    simpa using fun same : c = '.' => plain (same ▸ List.mem_reverse.mp member)
  rw [extensionOf, named, List.reverse_append, List.reverse_cons, List.append_assoc,
    List.takeWhile_append_of_pos passed]
  simp

/-- The extension of a path is the one word behind a dot that its base name ends with. -/
theorem extensionOf_eq_iff (plain : '.' ∉ word) :
    extensionOf path = '.' :: word ↔ '.' :: word <:+ baseName path := by
  constructor
  · intro extension
    have dotted : '.' ∈ baseName path := by
      by_contra plain
      simp [extensionOf, plain] at extension
    obtain ⟨front, last, named, plain⟩ := exists_last dotted
    rw [extensionOf_dot plain named] at extension
    rw [named, ← extension]
    exact List.suffix_append ..
  · rintro ⟨front, named⟩
    exact extensionOf_dot plain named.symm

/-- Every known extension is a word without dots, behind a dot. -/
theorem extension_spelled {extension : String} (member : g ∈ known)
    (inside : extension ∈ g.extensions) :
    ∃ word, extension.toList = '.' :: word ∧ '.' ∉ word := by
  have all : ∀ g ∈ known, ∀ extension ∈ g.extensions,
      extension.toList.head? = some '.' ∧ '.' ∉ extension.toList.tail := by decide +kernel
  obtain ⟨first, plain⟩ := all g member extension inside
  exact ⟨_, List.eq_cons_of_mem_head? first, plain⟩

theorem detect_eq_some {path : String} :
    detect path = some g ↔ g ∈ known ∧ g.Ends (baseName path.toList) := by
  rw [detect, lookup, table_exact.lookup_iff]
  refine and_congr_right fun member => ⟨fun inside => ?_, ?_⟩
  · obtain ⟨word, spelled, plain⟩ := extension_spelled member inside
    refine ⟨_, inside, ?_⟩
    rw [String.toList_ofList] at spelled ⊢
    rw [spelled]
    exact (extensionOf_eq_iff plain).mp spelled
  · rintro ⟨extension, inside, ends⟩
    obtain ⟨word, spelled, plain⟩ := extension_spelled member inside
    rw [spelled] at ends
    rwa [(extensionOf_eq_iff plain).mpr ends, ← spelled, String.ofList_toList]

theorem extensionOf_slash (plain : '/' ∉ last) :
    extensionOf (front ++ '/' :: last) = extensionOf last := by
  rw [extensionOf, extensionOf, baseName_slash plain, baseName_plain plain]

/-- The text of a place below a location ends with the last of its names. -/
theorem text_below (location above : List String) (name : String) :
    ∃ front, ((Path.ofLocation location).append (above ++ [name])).text.toList =
      front ++ '/' :: name.toList := by
  have whole : (Path.ofLocation location).append (above ++ [name]) =
      .ofLocation (location ++ above ++ [name]) := by
    simp [Path.append, Path.ofLocation]
  rw [whole, text_location]
  by_cases nonempty : location ++ above = []
  · rw [nonempty, List.nil_append, String.intercalate_singleton]
    exact ⟨[], rfl⟩
  · rw [String.intercalate_append_of_ne_nil nonempty (by simp), String.intercalate_singleton,
      String.toList_append, String.toList_append]
    exact ⟨'/' :: ("/".intercalate (location ++ above)).toList, by simp⟩

/-- Wherever a file lies, its name alone tells its grammar. -/
theorem detect_below (location above : List String) (plain : '/' ∉ name.toList) :
    detect ((Path.ofLocation location).append (above ++ [name])).text = detect name := by
  obtain ⟨front, text⟩ := text_below location above name
  rw [detect, detect, text, extensionOf_slash plain]

theorem detect_slash (directory : String) (plain : '/' ∉ name.toList) :
    detect (directory ++ "/" ++ name) = detect name := by
  have slash : "/".toList = ['/'] := rfl
  rw [detect, detect, String.toList_append, String.toList_append, slash, List.append_assoc,
    List.singleton_append, extensionOf_slash plain]

/-- Below a location and by itself, a path has the same grammar. -/
theorem detect_located (location : List String) {names : List String} (nonempty : names ≠ [])
    (proper : ∀ part ∈ names, ProperName part) :
    detect ((Path.ofLocation location).append names).text = detect ("/".intercalate names) := by
  obtain ⟨above, name, rfl⟩ := (List.eq_nil_or_concat names).resolve_left nonempty
  rw [List.concat_eq_append] at proper ⊢
  have plain : '/' ∉ name.toList := (proper name (by simp)).2.2
  rw [detect_below location above plain]
  by_cases alone : above = []
  · rw [alone, List.nil_append, String.intercalate_singleton]
  · rw [String.intercalate_append_of_ne_nil alone (by simp), String.intercalate_singleton,
      detect_slash _ plain]

/-- A path has a grammar exactly if its base name ends with an extension of that grammar, upper and
lower case told apart. Every path has one base name, with whose end at most one grammar agrees. What
stands before the base name has no part in it, so that the full path under which a file is counted
has the grammar of the path that is reported. -/
theorem detect_exact :
    (∀ (path : String) name, IsBaseName path.toList name → ∀ g,
      detect path = some g ↔ g ∈ known ∧ g.Ends name) ∧
    (∀ path, ∃! name, IsBaseName path name) ∧
    (∀ path name, IsBaseName path name → ∀ g ∈ known, ∀ other ∈ known,
      g.Ends name → other.Ends name → g = other) ∧
    (∀ directory name : String, '/' ∉ name.toList →
      detect (directory ++ "/" ++ name) = detect name) ∧
    ∀ d settings target listing, d.root.ProperNames →
      (Scan.scan d settings target).result = .ok listing → ∀ e ∈ listing.files,
        detect ((Path.ofLocation (d.canonical target)).append e.names).text = detect e.path := by
  refine ⟨?_, ?_, ?_, ?_, ?_⟩
  · intro path name base g
    rw [isBaseName_iff.mp base]
    exact detect_eq_some
  · intro path
    exact ⟨baseName path, isBaseName_iff.mpr rfl, fun name base => isBaseName_iff.mp base⟩
  · intro path name base g known other known' ends ends'
    rw [isBaseName_iff.mp base, ← @String.toList_ofList path] at ends ends'
    exact Option.some.inj ((detect_eq_some.mpr ⟨known, ends⟩).symm.trans
      (detect_eq_some.mpr ⟨known', ends'⟩))
  · exact fun directory name => detect_slash directory
  · intro d settings target listing proper scanned e member
    obtain ⟨nonempty, parts⟩ := Scan.scan_files proper scanned member
    exact detect_located _ nonempty parts

example : (detect "a.d/b.rs/main.test.go").map Grammar.name = some "Go" ∧
    detect "a.d/main.GO" = none ∧ detect "main.go/" = none := by
  decide +kernel

end LineBudget.Language
