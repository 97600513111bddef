import LineBudget.Proofs.Scan.Excluding

/-! Where a walk fails. Among the directories that it comes to, those that cannot be listed are told
without the walk, and the first of them in the order of the walk is the one that it fails with. -/
namespace LineBudget.Scan
open LineBudget.Files LineBudget.Config
open scoped List

/-- Neither what stands at `names` nor a directory above it and below the start is left out. -/
def Entered (excludes : Exclusion) (names : List String) : Prop :=
  ∀ above, above ≠ [] → above <+: names → excludes above true = false

/-- A directory that cannot be listed for this reason, and that is neither left out nor below one
that is. -/
def Barred (barred : Barrier) (excludes : Exclusion) (root : Node) (names : List String)
    (reason : Reason) : Prop :=
  (∃ entries access, root.find? names = some (.directory entries access)) ∧
    barred names = some reason ∧ Entered excludes names

variable {barred : Barrier} {excludes : Exclusion} {here names rest : List String} {name : String}
  {node root : Node} {entries : List (String × Node)} {access : Access} {reason : Reason} {d : Disk}
  {place : Path}

theorem entered_cons : Entered excludes (name :: rest) ↔
    excludes [name] true = false ∧ Entered (excludes.below [name]) rest := by
  constructor
  · intro free
    refine ⟨free [name] (by simp) (by simp), ?_⟩
    intro above _ within
    exact free (name :: above) (by simp) (by simpa using within)
  · rintro ⟨first, below⟩ above nonempty within
    cases above with
    | nil => exact absurd rfl nonempty
    | cons same above =>
      obtain ⟨rfl, inside⟩ := List.cons_prefix_cons.mp within
      cases above with
      | nil => exact first
      | cons next above => exact below (next :: above) (by simp) inside

/-- A directory is barred below an entry if the walk enters the entry and it is barred there. -/
theorem barred_entry (distinct : (Node.directory entries access).DistinctNames)
    (member : (name, node) ∈ entries) :
    Barred barred excludes (.directory entries access) (name :: rest) reason ↔
      excludes [name] true = false ∧
        Barred (barred.below [name]) (excludes.below [name]) node rest reason := by
  rw [Barred, Node.find?_entry distinct member, entered_cons, Barred, Barrier.below,
    List.singleton_append]
  tauto

theorem barred_leaf (plain : node.isDirectory = false) :
    ¬ Barred barred excludes node names reason := by
  rintro ⟨⟨entries, access, found⟩, _⟩
  cases names with
  | nil =>
    cases found
    cases plain
  | cons name rest =>
    rw [Node.find?_eq_none plain] at found
    cases found

/-- A barred directory, or one above it, stops the walk. -/
theorem visit_of_barred (node : Node) : ∀ here rest, node.DistinctNames →
    Barred (barred.below here) (excludes.below here) node rest reason → ∃ above reason,
      above <+: rest ∧ .unlistable (here ++ above) reason ∈ visits barred excludes here node := by
  induction node using Node.induction with
  | file | link => exact fun _ _ _ barred => absurd barred (barred_leaf rfl)
  | directory entries access ih =>
    intro here rest distinct stops
    cases listing : barred here with
    | some reason => exact ⟨[], reason, List.nil_prefix, by simp [visits_barred listing]⟩
    | none =>
      cases rest with
      | nil =>
        obtain ⟨_, stopped, _⟩ := stops
        rw [Barrier.below, List.append_nil, listing] at stopped
        cases stopped
      | cons name rest =>
        obtain ⟨below, access', found⟩ := stops.1
        obtain ⟨node, entry, _⟩ := Option.bind_eq_some_iff.mp found
        have member : (name, node) ∈ entries := mem_of_lookup entry
        obtain ⟨entered, stops⟩ := (barred_entry distinct member).mp stops
        rw [below_below, Barrier.below_below] at stops
        obtain ⟨above, reason, within, stopped⟩ := ih _ member _ rest (distinct.entry member) stops
        have directory : node.isDirectory = true := by
          by_contra plain
          exact barred_leaf (by simpa using plain) stops
        refine ⟨name :: above, reason, List.cons_prefix_cons.mpr ⟨rfl, within⟩, ?_⟩
        refine (mem_visits listing).mpr ⟨(name, node), member, ?_⟩
        have entered' : ¬ excludes (here ++ [name]) true = true :=
          Bool.eq_false_iff.mp entered
        simp only [entryVisit, directory, if_neg entered', if_true]
        simpa using stopped

end LineBudget.Scan
