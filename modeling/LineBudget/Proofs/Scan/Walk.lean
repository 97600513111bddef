import LineBudget.Proofs.Files.Tree
import LineBudget.Scan.Walk
import Mathlib.Data.List.Lex
import Mathlib.Data.List.Sort
import Mathlib.Data.String.Basic

/-! Which entries the walk keeps and in which order, said without the walk: an entry is kept if
neither itself nor a directory on the way to it is left out, and entries stand in the order of
their names, compared like words letter by letter. -/
namespace LineBudget.Scan
open LineBudget.Files

/-- No directory above `names` and below the start is left out. -/
def Open (excludes : Exclusion) (names : List String) : Prop :=
  ∀ above, above ≠ [] → above <+: names → above ≠ names → excludes above true = false

/-- Something other than a directory stands at `names`, which the exclusion lets through. -/
def Kept (excludes : Exclusion) (root : Node) (names : List String) : Prop :=
  (∃ leaf, root.find? names = some leaf ∧ leaf.isDirectory = false) ∧
    excludes names false = false ∧ Open excludes names

/-- Every directory that is neither left out nor below one that is can be listed. -/
def Listable (barred : Barrier) (excludes : Exclusion) (root : Node) : Prop :=
  ∀ names entries access, root.find? names = some (.directory entries access) →
    (names ≠ [] → excludes names true = false) → Open excludes names → barred names = none

/-- An exclusion as it is seen from a directory. -/
def Exclusion.below (excludes : Exclusion) (here : List String) : Exclusion :=
  fun names directory => excludes (here ++ names) directory

/-- A barrier as it is met from a directory. -/
def Barrier.below (barred : Barrier) (here : List String) : Barrier :=
  fun names => barred (here ++ names)

/-- What the walk comes by at one entry of the directory `here`. -/
def entryVisit (barred : Barrier) (excludes : Exclusion) (here : List String)
    (e : String × Node) : List Visit :=
  if excludes (here ++ [e.1]) e.2.isDirectory then
    if e.2.isDirectory then [.skipped (here ++ [e.1])] else []
  else if e.2.isDirectory then visits barred excludes (here ++ [e.1]) e.2
  else [.kept (here ++ [e.1])]

/-- The names that a visit is about. -/
def Visit.names : Visit → List String
  | .kept names | .skipped names | .unlistable names _ => names

variable {barred : Barrier} {excludes : Exclusion} {here names rest : List String} {name : String}
  {node : Node} {entries : List (String × Node)} {access : Access} {reason : Reason}

theorem entryVisits_eq (barred : Barrier) (excludes : Exclusion) (here : List String)
    (entries : List (String × Node)) : entryVisits barred excludes here entries =
      entries.map fun e => (e.1, entryVisit barred excludes here e) := by
  induction entries with
  | nil => rfl
  | cons e rest ih =>
    rw [entryVisits, ih]
    rfl

theorem mem_inOrder {v : Visit} {found : List (String × List Visit)} :
    v ∈ inOrder found ↔ ∃ p ∈ found, v ∈ p.2 := by
  simp [inOrder]

theorem visits_listed (listed : barred here = none) :
    visits barred excludes here (.directory entries access) =
      inOrder (entries.map fun e => (e.1, entryVisit barred excludes here e)) := by
  rw [visits, listed, ← entryVisits_eq]

theorem visits_barred (stopped : barred here = some reason) :
    visits barred excludes here (.directory entries access) = [.unlistable here reason] := by
  rw [visits, stopped]

/-- The visits of a directory that can be listed are those of its entries. -/
theorem mem_visits {v : Visit} (listed : barred here = none) :
    v ∈ visits barred excludes here (.directory entries access) ↔
      ∃ e ∈ entries, v ∈ entryVisit barred excludes here e := by
  rw [visits_listed listed, mem_inOrder]
  simp

/-- A visit is to the entry itself, or below it where the walk enters it. -/
theorem mem_entryVisit {v : Visit} (visited : v ∈ entryVisit barred excludes here (name, node)) :
    v = .skipped (here ++ [name]) ∨ v = .kept (here ++ [name]) ∨
      node.isDirectory = true ∧ excludes (here ++ [name]) true = false ∧
        v ∈ visits barred excludes (here ++ [name]) node := by
  simp only [entryVisit] at visited
  split_ifs at visited with left directory directory
  · exact .inl (List.mem_singleton.mp visited)
  · cases visited
  · exact .inr (.inr ⟨directory, by simpa [directory] using left, visited⟩)
  · exact .inr (.inl (List.mem_singleton.mp visited))

/-- What is kept stands below the start, under names as the tree has them. -/
theorem visits_names (node : Node) : ∀ here, .kept names ∈ visits barred excludes here node →
    ∃ rest, names = here ++ rest ∧ rest ≠ [] ∧
      (node.ProperNames → ∀ part ∈ rest, ProperName part) := by
  induction node using Node.induction with
  | file | link => simp [visits]
  | directory entries access ih =>
    intro here visited
    cases listing : barred here with
    | some reason =>
      rw [visits_barred listing] at visited
      cases List.mem_singleton.mp visited
    | none =>
      obtain ⟨⟨name, node⟩, member, visited⟩ := (mem_visits listing).mp visited
      have named (proper : (Node.directory entries access).ProperNames) :
          ProperName name ∧ node.ProperNames :=
        have ⟨all, below⟩ := proper.start (by simp)
        ⟨all _ member, below _ member⟩
      obtain skipped | kept | ⟨_, _, below⟩ := mem_entryVisit visited
      · cases skipped
      · cases kept
        exact ⟨[name], rfl, by simp, fun proper => by simpa using (named proper).1⟩
      · obtain ⟨rest, rfl, _, parts⟩ := ih _ member _ below
        exact ⟨name :: rest, by simp, by simp, fun proper =>
          List.forall_mem_cons.mpr ⟨(named proper).1, parts (named proper).2⟩⟩

theorem open_nil : Open excludes [] := fun _ nonempty within =>
  absurd (List.prefix_nil.mp within) nonempty

theorem open_cons : Open excludes (name :: rest) ↔
    (rest ≠ [] → excludes [name] true = false) ∧ Open (excludes.below [name]) rest := by
  constructor
  · intro free
    refine ⟨fun more => free [name] (by simp) (by simp) (by simp [more.symm]), ?_⟩
    intro above _ within other
    exact free (name :: above) (by simp) (by simpa using within) (by simpa using other)
  · rintro ⟨first, below⟩ above nonempty within other
    cases above with
    | nil => exact absurd rfl nonempty
    | cons same above =>
      obtain ⟨rfl, inside⟩ := List.cons_prefix_cons.mp within
      rcases above with _ | ⟨next, above⟩
      · exact first fun none => other (by rw [none])
      · exact below (next :: above) (by simp) inside fun same => other (by rw [same])

/-- An entry keeps what stands in it if it is a directory, and else itself. -/
theorem kept_entry (distinct : (Node.directory entries access).DistinctNames)
    (member : (name, node) ∈ entries) :
    Kept excludes (.directory entries access) (name :: rest) ↔
      if node.isDirectory then excludes [name] true = false ∧ Kept (excludes.below [name]) node rest
      else rest = [] ∧ excludes [name] false = false := by
  rw [Kept, Node.find?_entry distinct member, open_cons]
  split
  case isTrue directory =>
    cases rest with
    | nil => simp [Kept, Node.find?, directory]
    | cons next rest => simp [Kept, Exclusion.below]; tauto
  case isFalse plain =>
    cases rest with
    | nil => simp_all [Node.find?, Open]
    | cons next rest => simp [Node.find?_eq_none (by simpa using plain)]

theorem below_below (excludes : Exclusion) (here : List String) (name : String) :
    (excludes.below here).below [name] = excludes.below (here ++ [name]) := by
  funext names directory
  simp [Exclusion.below]

theorem Barrier.below_below (barred : Barrier) (here : List String) (name : String) :
    (barred.below here).below [name] = barred.below (here ++ [name]) := by
  funext names
  simp [Barrier.below]

theorem Listable.start
    (listable : Listable (barred.below here) excludes (.directory entries access)) :
    barred here = none := by
  simpa [Barrier.below] using listable [] entries access rfl (absurd rfl) open_nil

theorem Listable.entry (listable : Listable barred excludes (.directory entries access))
    (distinct : (Node.directory entries access).DistinctNames) (member : (name, node) ∈ entries)
    (entered : excludes [name] true = false) :
    Listable (barred.below [name]) (excludes.below [name]) node := by
  intro names below seen found passed free
  refine listable (name :: names) below seen ((Node.find?_entry distinct member names).trans found)
    (fun _ => ?_) (open_cons.mpr ⟨fun _ => entered, free⟩)
  cases names with
  | nil => exact entered
  | cons next names => exact passed (by simp)

theorem Listable.below
    (listable : Listable (barred.below here) (excludes.below here) (.directory entries access))
    (distinct : (Node.directory entries access).DistinctNames) (member : (name, node) ∈ entries)
    (entered : excludes (here ++ [name]) true = false) :
    Listable (barred.below (here ++ [name])) (excludes.below (here ++ [name])) node := by
  rw [← below_below, ← Barrier.below_below]
  exact listable.entry distinct member entered

/-- Sorted by their names, entries of different names stand in strict order. -/
theorem sorted_by_name {α : Type} {found : List (String × α)}
    (distinct : (found.map (·.1)).Nodup) :
    (found.mergeSort fun a b => a.1 ≤ b.1).Pairwise (fun a b => a.1 < b.1) := by
  have trans (a b c : String × α) (ab : decide (a.1 ≤ b.1)) (bc : decide (b.1 ≤ c.1)) :
      decide (a.1 ≤ c.1) := decide_eq_true ((of_decide_eq_true ab).trans (of_decide_eq_true bc))
  have sorted := List.pairwise_mergeSort trans (fun a b => by simpa using le_total a.1 b.1) found
  have unique : ((found.mergeSort fun a b => a.1 ≤ b.1).map (·.1)).Nodup :=
    ((List.mergeSort_perm found _).map _).nodup_iff.mpr distinct
  rw [List.Nodup, List.pairwise_map] at unique
  exact (sorted.and unique).imp fun ⟨le, ne⟩ => lt_of_le_of_ne (of_decide_eq_true le) ne

end LineBudget.Scan
