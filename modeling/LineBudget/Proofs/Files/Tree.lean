import LineBudget.Files.Tree
import Mathlib.Data.List.Nodup

/-! What holds in every directory of a tree, and look-ups where each name stands for one entry. -/
namespace LineBudget.Files

/-- What may name an entry of a directory. -/
def ProperName (name : String) : Prop := name ≠ "" ∧ name ≠ "." ∧ '/' ∉ name.toList

instance (name : String) : Decidable (ProperName name) := inferInstanceAs (Decidable (_ ∧ _ ∧ _))

namespace Node

/-- A statement about a directory may use it for all that stands in the directory. -/
theorem induction {P : Node → Prop} (file : ∀ content readable, P (.file content readable))
    (link : ∀ target, P (.link target))
    (directory : ∀ entries access, (∀ e ∈ entries, P e.2) → P (.directory entries access)) :
    ∀ node, P node
  | .file content readable => file content readable
  | .link target => link target
  | .directory entries access => directory entries access fun e _ =>
    induction file link directory e.2
termination_by node => sizeOf node
decreasing_by
  rename_i member
  have smaller := List.sizeOf_lt_of_mem member
  obtain ⟨name, node⟩ := e
  simp only [Node.directory.sizeOf_spec, Prod.mk.sizeOf_spec] at smaller ⊢
  omega

/-- The entries of every directory of a tree are as `P` asks. -/
inductive Throughout (P : List (String × Node) → Prop) : Node → Prop
  | file (content : List UInt8) (readable : Bool) : Throughout P (.file content readable)
  | link (target : String) : Throughout P (.link target)
  | directory {entries : List (String × Node)} {access : Access} (here : P entries)
      (below : ∀ e ∈ entries, Throughout P e.2) : Throughout P (.directory entries access)

/-- Each directory has each of its names once. -/
def DistinctNames : Node → Prop := Throughout fun entries => (entries.map (·.1)).Nodup

/-- Each entry has a name that a path can have a part of. -/
def ProperNames : Node → Prop := Throughout fun entries => ∀ e ∈ entries, ProperName e.1

end Node

section
variable {α : Type} {entries : List (String × α)} {name : String} {value : α}

theorem mem_of_lookup (found : entries.lookup name = some value) : (name, value) ∈ entries := by
  obtain ⟨before, after, rfl, _⟩ := List.lookup_eq_some_iff.mp found
  simp

theorem lookup_eq_some (distinct : (entries.map (·.1)).Nodup) :
    entries.lookup name = some value ↔ (name, value) ∈ entries := by
  refine ⟨mem_of_lookup, fun member => ?_⟩
  induction entries with
  | nil => cases member
  | cons e rest ih =>
    obtain ⟨other, old⟩ := e
    simp only [List.map_cons, List.nodup_cons] at distinct
    rcases List.mem_cons.mp member with same | later
    · cases same
      exact List.lookup_cons_self
    · have differs : name ≠ other := by
        rintro rfl
        exact distinct.1 (List.mem_map.mpr ⟨_, later, rfl⟩)
      rw [List.lookup_cons, beq_false_of_ne differs]
      exact ih distinct.2 later

end

section
variable {entries : List (String × Node)} {name : String} {node : Node}

theorem mem_setEntry {e : String × Node} (member : e ∈ setEntry name node entries) :
    e = (name, node) ∨ e ∈ entries := by
  induction entries with
  | nil => exact .inl (List.mem_singleton.mp member)
  | cons first rest ih =>
    obtain ⟨other, old⟩ := first
    simp only [setEntry] at member
    split at member
    · exact (List.mem_cons.mp member).imp_right (List.mem_cons_of_mem _)
    · rcases List.mem_cons.mp member with rfl | later
      · exact .inr (List.mem_cons_self ..)
      · exact (ih later).imp_right (List.mem_cons_of_mem _)

theorem setEntry_names (name : String) (node : Node) (entries : List (String × Node)) :
    (setEntry name node entries).map (·.1) =
      if name ∈ entries.map (·.1) then entries.map (·.1) else entries.map (·.1) ++ [name] := by
  induction entries with
  | nil => rfl
  | cons first rest ih =>
    obtain ⟨other, old⟩ := first
    by_cases same : other = name
    · simp [setEntry, same]
    · rw [setEntry, if_neg same, List.map_cons, ih]
      by_cases known : name ∈ rest.map (·.1) <;> simp_all [Ne.symm same]

/-- An entry that is set is found under its name, and no other entry changes. -/
theorem lookup_setEntry (other : String) : (setEntry name node entries).lookup other =
    if other = name then some node else entries.lookup other := by
  have found (present : String) (old : Node) (rest : List (String × Node)) :
      ((present, old) :: rest).lookup other =
        if other = present then some old else rest.lookup other := by
    by_cases same : other = present
    · rw [if_pos same, same, List.lookup_cons_self]
    · rw [if_neg same, List.lookup_cons, beq_false_of_ne same]
  induction entries with
  | nil => exact found name node []
  | cons first rest ih =>
    obtain ⟨present, old⟩ := first
    rw [setEntry]
    split
    case isTrue same =>
      rw [found, found, same]
      split <;> rfl
    case isFalse differs =>
      rw [found, found, ih]
      by_cases same : other = present
      · rw [if_pos same, if_pos same, if_neg (same ▸ differs)]
      · rw [if_neg same, if_neg same]

end

namespace Node
variable {entries : List (String × Node)} {access : Access} {name : String} {node : Node}
  {P : List (String × Node) → Prop}

theorem Throughout.start (all : node.Throughout P) (empty : P []) :
    P node.entries ∧ ∀ e ∈ node.entries, e.2.Throughout P := by
  cases all with
  | file | link => exact ⟨empty, by simp [Node.entries]⟩
  | directory here below => exact ⟨here, below⟩

theorem Throughout.find? (all : node.Throughout P) {names : List String} {below : Node}
    (found : node.find? names = some below) : below.Throughout P := by
  induction names generalizing node with
  | nil =>
    cases found
    exact all
  | cons name rest ih =>
    obtain ⟨next, here, there⟩ := Option.bind_eq_some_iff.mp found
    have member := mem_of_lookup here
    cases all with
    | file | link => cases member
    | directory _ below => exact ih (below _ member) there

/-- What holds throughout a tree still does with a new node in it, where setting its names one by
one keeps it. -/
theorem Throughout.insert (all : node.Throughout P) {new : Node} (added : new.Throughout P)
    (empty : P []) {names : List String} (kept : ∀ name ∈ names, ∀ entries node,
      P entries → P (setEntry name node entries)) : (node.insert new names).Throughout P := by
  induction names generalizing node with
  | nil => exact added
  | cons name rest ih =>
    obtain ⟨here, below⟩ := all.start empty
    have next : ((node.entries.lookup name).getD (.directory [] {})).Throughout P := by
      cases found : node.entries.lookup name with
      | none => exact .directory empty (by simp)
      | some old => exact below _ (mem_of_lookup found)
    refine .directory (kept name (List.mem_cons_self ..) _ _ here) fun e member => ?_
    rcases mem_setEntry member with rfl | old
    · exact ih next fun other later => kept other (List.mem_cons_of_mem _ later)
    · exact below e old

theorem DistinctNames.names (distinct : DistinctNames (.directory entries access)) :
    (entries.map (·.1)).Nodup := by
  cases distinct with
  | directory here _ => exact here

theorem DistinctNames.entry (distinct : DistinctNames (.directory entries access))
    (member : (name, node) ∈ entries) : DistinctNames node := by
  cases distinct with
  | directory _ below => exact below _ member

theorem DistinctNames.insert (distinct : node.DistinctNames) {new : Node}
    (added : new.DistinctNames) (names : List String) : (node.insert new names).DistinctNames := by
  refine Throughout.insert distinct added List.nodup_nil fun name _ entries node unique => ?_
  rw [setEntry_names]
  split
  case isTrue => exact unique
  case isFalse new =>
    exact List.Nodup.append unique (List.nodup_singleton name) (by simpa using new)

theorem ProperNames.insert (proper : node.ProperNames) {new : Node} (added : new.ProperNames)
    {names : List String} (named : ∀ name ∈ names, ProperName name) :
    (node.insert new names).ProperNames := by
  refine Throughout.insert proper added (by simp) fun name member entries node all e set => ?_
  rcases mem_setEntry set with rfl | old
  · exact named name member
  · exact all e old

theorem find?_cons (node : Node) (name : String) (rest : List String) :
    node.find? (name :: rest) = (node.entries.lookup name).bind (·.find? rest) := rfl

/-- What stands below an entry is what the look-up under its name finds. -/
theorem find?_entry (distinct : DistinctNames (.directory entries access))
    (member : (name, node) ∈ entries) (rest : List String) :
    (Node.directory entries access).find? (name :: rest) = node.find? rest := by
  have here : entries.lookup name = some node := (lookup_eq_some distinct.names).mpr member
  rw [find?_cons, Node.entries, here, Option.bind_some]

theorem find?_eq_none (plain : node.isDirectory = false) (name : String) (rest : List String) :
    node.find? (name :: rest) = none := by
  cases node with
  | directory entries access => cases plain
  | file content readable => rfl
  | link target => rfl

end Node

theorem Disk.node_throughout {d : Disk} {p : Path} {node : Node}
    {P : List (String × Node) → Prop} (all : d.root.Throughout P) (found : d.node p = .ok node) :
    node.Throughout P := by
  unfold Disk.node at found
  split at found
  · cases found
  · cases found
  · split at found
    case h_1 there =>
      cases found
      exact all.find? there
    case h_2 => cases found

end LineBudget.Files
