import LineBudget.Language.Table
import LineBudget.Proofs.Files.Tree
import Mathlib.Data.List.Induction

/-! The table of extensions: it exists exactly if no two grammars share an extension, and then it
says of each extension which grammar has it. Neither the order of the grammars nor the one in which
the set of a grammar gives its extensions has a part in it. -/
namespace LineBudget.Language
open scoped List

/-- Grammars at two places share an extension. -/
def Conflict.Among (c : Conflict) (grammars : List Grammar) : Prop :=
  ∃ i j : Nat, i < j ∧ grammars[i]? = some c.first ∧ grammars[j]? = some c.second ∧
    c.extension ∈ c.first.extensions ∧ c.extension ∈ c.second.extensions

/-- The table has the extensions of these grammars, each with the one grammar that has it. -/
structure Table.Exact (t : Table) (grammars : List Grammar) : Prop where
  distinct : (t.entries.map Prod.fst).Nodup
  lookup_iff : ∀ extension g, t.lookup extension = some g ↔
    g ∈ grammars ∧ extension ∈ g.extensions
  mem_keys : ∀ extension, extension ∈ t.entries.map Prod.fst ↔
    ∃ g ∈ grammars, extension ∈ g.extensions
  total : ∀ extension,
    (t.lookup extension = none ∧ ∀ g ∈ grammars, extension ∉ g.extensions) ∨
    ∃ g, t.lookup extension = some g ∧ ∀ other ∈ grammars, extension ∈ other.extensions ↔ other = g

/-- A grammar with its extensions in the order in which its set gives them. -/
structure Enumeration where
  grammar : Grammar
  extensions : List String
  distinct : extensions.Nodup
  mem_iff : ∀ extension, extension ∈ extensions ↔ extension ∈ grammar.extensions

/-- The table of grammars whose extensions come in these orders. -/
def Table.build (enumerations : List Enumeration) : Except Conflict Table :=
  enumerations.foldlM
    (fun t e => e.extensions.foldlM (fun t extension => t.insert e.grammar extension) t) {}

/-- The extensions with their grammars, in the order in which they are added. -/
def pairs (enumerations : List Enumeration) : List (String × Grammar) :=
  enumerations.flatMap fun e => e.extensions.map (·, e.grammar)

def Table.insertAll (t : Table) (entries : List (String × Grammar)) : Except Conflict Table :=
  entries.foldlM (fun t entry => t.insert entry.2 entry.1) t

variable {t : Table} {g : Grammar} {grammars : List Grammar} {enumerations : List Enumeration}
  {entries : List (String × Grammar)} {extension : String}

theorem nodup_eraseDups (texts : List String) : texts.eraseDups.Nodup := by
  induction texts using List.reverseRecOn with
  | nil => exact List.nodup_nil
  | append_singleton before text ih =>
    rw [List.eraseDups_append]
    by_cases seen : text ∈ before
    · simpa [List.removeAll, seen] using ih
    · simpa [List.removeAll, seen, List.eraseDups_cons, List.nodup_append] using
        ⟨ih, fun other member => ne_of_mem_of_not_mem member seen⟩

/-- The extensions of a grammar in the order in which they are written. -/
def Enumeration.written (g : Grammar) : Enumeration where
  grammar := g
  extensions := g.extensions.eraseDups
  distinct := nodup_eraseDups g.extensions
  mem_iff := fun _ => List.mem_eraseDups

theorem build_written (grammars : List Grammar) :
    Table.build (grammars.map .written) = Table.ofGrammars grammars := by
  rw [Table.build, List.foldlM_map]
  rfl

/-- The two nested loops add one entry after the other. -/
theorem build_eq_insertAll (enumerations : List Enumeration) :
    Table.build enumerations = Table.insertAll {} (pairs enumerations) := by
  simp only [Table.build]
  generalize ({} : Table) = t
  induction enumerations generalizing t with
  | nil => rfl
  | cons e others ih =>
    rw [List.foldlM_cons, pairs, List.flatMap_cons, Table.insertAll, List.foldlM_append,
      List.foldlM_map]
    exact bind_congr fun next => ih next

theorem lookup_eq_none : t.lookup extension = none ↔ extension ∉ t.entries.map Prod.fst := by
  rw [Table.lookup, List.lookup_eq_none_iff]
  simp only [List.mem_map, not_exists, not_and, bne_iff_ne]
  exact forall₂_congr fun _ _ => ne_comm

/-- All entries are added if no extension is there twice. Otherwise, two entries of one extension
are reported. -/
theorem insertAll_cases (fresh : (t.entries.map Prod.fst).Nodup)
    (entries : List (String × Grammar)) :
    (((t.entries ++ entries).map Prod.fst).Nodup ∧
      t.insertAll entries = .ok ⟨t.entries ++ entries⟩) ∨
    ∃ c, t.insertAll entries = .error c ∧
      [(c.extension, c.first), (c.extension, c.second)] <+ t.entries ++ entries := by
  induction entries generalizing t with
  | nil => exact .inl ⟨by simpa using fresh, by simp [Table.insertAll, pure, Except.pure]⟩
  | cons entry rest ih =>
    obtain ⟨extension, g⟩ := entry
    cases found : t.lookup extension with
    | some first =>
      refine .inr ⟨⟨extension, first, g⟩, ?_, ?_⟩
      · rw [Table.insertAll, List.foldlM_cons, Table.insert, found]
        rfl
      · have before := List.singleton_sublist.mpr (Files.mem_of_lookup found)
        exact before.append (List.cons_sublist_cons.mpr (List.nil_sublist rest))
    | none =>
      have added : t.insertAll ((extension, g) :: rest) =
          Table.insertAll ⟨t.entries ++ [(extension, g)]⟩ rest := by
        rw [Table.insertAll, List.foldlM_cons, Table.insert, found]
        rfl
      have distinct : ((t.entries ++ [(extension, g)]).map Prod.fst).Nodup := by
        rw [List.map_append]
        exact List.concat_eq_append ▸ fresh.concat (lookup_eq_none.mp found)
      rw [added, List.append_cons]
      exact ih distinct

/-- Two entries of one extension come from grammars at two places: one grammar has each of its
extensions once. -/
theorem pairs_among (enumerations : List Enumeration) :
    (pairs enumerations).Pairwise fun entry later => entry.1 = later.1 →
      Conflict.Among ⟨entry.1, entry.2, later.2⟩ (enumerations.map (·.grammar)) := by
  rw [pairs, List.pairwise_flatMap]
  constructor
  · intro e _
    rw [List.pairwise_map]
    exact e.distinct.imp fun differs same => absurd same differs
  · rw [List.pairwise_iff_getElem]
    intro i j here there before entry inFirst later inSecond same
    obtain ⟨extension, first, rfl⟩ := List.mem_map.mp inFirst
    obtain ⟨_, second, rfl⟩ := List.mem_map.mp inSecond
    obtain rfl : extension = _ := same
    exact ⟨i, j, before, by simp [here], by simp [there], (Enumeration.mem_iff _ _).mp first,
      (Enumeration.mem_iff _ _).mp second⟩

theorem not_among (distinct : ((pairs enumerations).map Prod.fst).Nodup) (c : Conflict) :
    ¬ c.Among (enumerations.map (·.grammar)) := by
  rintro ⟨i, j, before, first, second, inFirst, inSecond⟩
  rw [List.getElem?_map, Option.map_eq_some_iff] at first second
  obtain ⟨e, first, owner⟩ := first
  obtain ⟨e', second, owner'⟩ := second
  obtain ⟨here, rfl⟩ := List.getElem?_eq_some_iff.mp first
  obtain ⟨there, rfl⟩ := List.getElem?_eq_some_iff.mp second
  rw [← owner, ← Enumeration.mem_iff] at inFirst
  rw [← owner', ← Enumeration.mem_iff] at inSecond
  rw [List.Nodup, List.pairwise_map, pairs, List.pairwise_flatMap] at distinct
  exact List.pairwise_iff_getElem.mp distinct.2 i j here there before
    _ (List.mem_map_of_mem inFirst) _ (List.mem_map_of_mem inSecond) rfl

theorem mem_pairs : (extension, g) ∈ pairs enumerations ↔
    g ∈ enumerations.map (·.grammar) ∧ extension ∈ g.extensions := by
  simp only [pairs, List.mem_flatMap, List.mem_map, Prod.mk.injEq]
  constructor
  · rintro ⟨e, member, _, inside, rfl, rfl⟩
    exact ⟨⟨e, member, rfl⟩, (e.mem_iff _).mp inside⟩
  · rintro ⟨⟨e, member, rfl⟩, inside⟩
    exact ⟨e, member, extension, (e.mem_iff _).mpr inside, rfl, rfl⟩

theorem exact_of_distinct (distinct : ((pairs enumerations).map Prod.fst).Nodup) :
    Table.Exact ⟨pairs enumerations⟩ (enumerations.map (·.grammar)) := by
  have lookup_iff (extension : String) (g : Grammar) :
      Table.lookup ⟨pairs enumerations⟩ extension = some g ↔
        g ∈ enumerations.map (·.grammar) ∧ extension ∈ g.extensions :=
    (Files.lookup_eq_some distinct).trans mem_pairs
  have mem_keys (extension : String) : extension ∈ (pairs enumerations).map Prod.fst ↔
      ∃ g ∈ enumerations.map (·.grammar), extension ∈ g.extensions := by
    simp only [List.mem_map (f := Prod.fst), Prod.exists, exists_and_right, exists_eq_right,
      mem_pairs]
  refine ⟨distinct, lookup_iff, mem_keys, fun extension => ?_⟩
  cases found : Table.lookup ⟨pairs enumerations⟩ extension with
  | none =>
    refine .inl ⟨rfl, fun g member inside => ?_⟩
    exact lookup_eq_none.mp found ((mem_keys extension).mpr ⟨g, member, inside⟩)
  | some g =>
    refine .inr ⟨g, rfl, fun other member => ⟨fun inside => ?_, ?_⟩⟩
    · exact Option.some.inj (((lookup_iff extension other).mpr ⟨member, inside⟩).symm.trans found)
    · rintro rfl
      exact ((lookup_iff extension other).mp found).2

/-- Building ends in one of two ways: with the exact table, where no extension is shared, and else
with two grammars that share one. -/
theorem build_cases (enumerations : List Enumeration) :
    (∃ t, Table.build enumerations = .ok t ∧ t.Exact (enumerations.map (·.grammar)) ∧
      ∀ c : Conflict, ¬ c.Among (enumerations.map (·.grammar))) ∨
    ∃ c, Table.build enumerations = .error c ∧ c.Among (enumerations.map (·.grammar)) := by
  rw [build_eq_insertAll]
  rcases insertAll_cases (t := {}) List.nodup_nil (pairs enumerations) with
    ⟨distinct, built⟩ | ⟨c, conflict, twice⟩
  · exact .inl ⟨_, built, exact_of_distinct distinct, not_among distinct⟩
  · have among := List.pairwise_iff_forall_sublist.mp (pairs_among enumerations) twice
    exact .inr ⟨c, conflict, among rfl⟩

/-- No extension is shared exactly if any two of the grammars have none in common. -/
theorem not_among_iff : (∀ c : Conflict, ¬ c.Among grammars) ↔ grammars.Pairwise fun first second =>
    ∀ extension ∈ first.extensions, extension ∉ second.extensions := by
  rw [List.pairwise_iff_getElem]
  constructor
  · intro unshared i j here there before extension inFirst inSecond
    exact unshared ⟨extension, grammars[i], grammars[j]⟩ ⟨i, j, before,
      List.getElem?_eq_getElem here, List.getElem?_eq_getElem there, inFirst, inSecond⟩
  · rintro apart c ⟨i, j, before, first, second, inFirst, inSecond⟩
    obtain ⟨here, same⟩ := List.getElem?_eq_some_iff.mp first
    obtain ⟨there, same'⟩ := List.getElem?_eq_some_iff.mp second
    exact apart i j here there before c.extension (same ▸ inFirst) (same' ▸ inSecond)

theorem not_among_perm {others : List Grammar} (same : grammars ~ others)
    (unshared : ∀ c : Conflict, ¬ c.Among grammars) (c : Conflict) : ¬ c.Among others := by
  have symmetric {first second : Grammar}
      (apart : ∀ extension ∈ first.extensions, extension ∉ second.extensions) :
      ∀ extension ∈ second.extensions, extension ∉ first.extensions :=
    fun extension inSecond inFirst => apart extension inFirst inSecond
  exact not_among_iff.mpr ((same.pairwise_iff symmetric).mp (not_among_iff.mp unshared)) c

/-- Both are tables with the same look-ups, or neither is a table. -/
def SameTable (built other : Except Conflict Table) : Prop :=
  built.toOption.map Table.lookup = other.toOption.map Table.lookup

theorem Table.Exact.lookup_eq {t other : Table} {others : List Grammar}
    (exact : t.Exact grammars) (exact' : other.Exact others) (same : grammars ~ others) :
    t.lookup = other.lookup := by
  funext extension
  refine Option.ext fun g => ?_
  rw [exact.lookup_iff, exact'.lookup_iff, same.mem_iff]

/-- Neither the order of the grammars nor those of their extensions matter. -/
theorem sameTable_perm {others : List Enumeration}
    (same : enumerations.map (·.grammar) ~ others.map (·.grammar)) :
    SameTable (Table.build enumerations) (Table.build others) := by
  rcases build_cases enumerations with ⟨t, built, exact, unshared⟩ | ⟨c, conflict, among⟩
  · rcases build_cases others with ⟨other, built', exact', _⟩ | ⟨c, _, among⟩
    · rw [SameTable, built, built']
      exact congrArg some (exact.lookup_eq exact' same)
    · exact absurd among (not_among_perm same unshared c)
  · rcases build_cases others with ⟨_, _, _, unshared⟩ | ⟨c', conflict', _⟩
    · exact absurd among (not_among_perm same.symm unshared c)
    · rw [SameTable, conflict, conflict']
      rfl

theorem map_grammar_written (grammars : List Grammar) :
    (grammars.map Enumeration.written).map (·.grammar) = grammars := by
  simp [Enumeration.written, Function.comp_def]

theorem ofGrammars_cases (grammars : List Grammar) :
    (∃ t, Table.ofGrammars grammars = .ok t ∧ t.Exact grammars ∧
      ∀ c : Conflict, ¬ c.Among grammars) ∨
    ∃ c, Table.ofGrammars grammars = .error c ∧ c.Among grammars := by
  have cases := build_cases (grammars.map .written)
  rwa [build_written, map_grammar_written] at cases

theorem table_exact : table.Exact known := by
  rcases ofGrammars_cases known with ⟨t, built, exact, _⟩ | ⟨c, _, among⟩
  · rwa [table, built]
  · exact absurd among (not_among_iff.mpr (by decide +kernel) c)

/-- There is no table exactly if grammars at two places share an extension, and what is then
reported is such an extension with its two grammars. A table has the extensions of all grammars and
no others, and its look-ups give the one grammar that has an extension, or none. The order of the
grammars has no part in this, and neither has the order in which a set gives its extensions. The
known grammars have a table, which is the one that extensions are looked up in. -/
theorem ofGrammars_exact (grammars : List Grammar) :
    ((∃ c, Table.ofGrammars grammars = .error c) ↔ ∃ c : Conflict, c.Among grammars) ∧
    (∀ c, Table.ofGrammars grammars = .error c → c.Among grammars) ∧
    (∀ t, Table.ofGrammars grammars = .ok t → t.Exact grammars) ∧
    (∀ others, others ~ grammars →
      SameTable (Table.ofGrammars others) (Table.ofGrammars grammars)) ∧
    (∀ enumerations : List Enumeration, enumerations.map (·.grammar) = grammars →
      SameTable (Table.build enumerations) (Table.ofGrammars grammars)) ∧
    ∀ extension g, lookup extension = some g ↔ g ∈ known ∧ extension ∈ g.extensions := by
  refine ⟨?_, ?_, ?_, ?_, ?_, table_exact.lookup_iff⟩
  · rcases ofGrammars_cases grammars with ⟨t, built, _, unshared⟩ | ⟨c, conflict, among⟩
    · exact iff_of_false (fun ⟨c, conflict⟩ => nomatch built.symm.trans conflict)
        (fun ⟨c, among⟩ => unshared c among)
    · exact iff_of_true ⟨c, conflict⟩ ⟨c, among⟩
  · intro c conflict
    rcases ofGrammars_cases grammars with ⟨t, built, _⟩ | ⟨c', conflict', among⟩
    · cases built.symm.trans conflict
    · cases conflict'.symm.trans conflict
      exact among
  · intro t built
    rcases ofGrammars_cases grammars with ⟨t', built', exact, _⟩ | ⟨c, conflict, _⟩
    · cases built'.symm.trans built
      exact exact
    · cases conflict.symm.trans built
  · intro others same
    rw [← build_written others, ← build_written grammars]
    exact sameTable_perm (by rwa [map_grammar_written, map_grammar_written])
  · rintro enumerations rfl
    rw [← build_written]
    exact sameTable_perm (by rw [map_grammar_written])

end LineBudget.Language
