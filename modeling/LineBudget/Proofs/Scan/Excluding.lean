import LineBudget.Proofs.Scan.Target
import Mathlib.Data.List.Flatten

/-! Two walks through one tree, of which the second leaves out more: it lists some of the files of
the first one, in the same order, and fails only where the first one fails. -/
namespace LineBudget.Scan
open LineBudget.Files LineBudget.Config
open scoped List

variable {barred : Barrier} {excludes other : Exclusion} {here : List String}
  {entries : List (String × Node)} {access : Access} {reason : Reason} {d : Disk} {place : Path}
  {listing : Listing}

/-- Whatever is left out is left out by the other one as well. -/
def Exclusion.Within (excludes other : Exclusion) : Prop :=
  ∀ names directory, excludes names directory = true → other names directory = true

/-- The entries of a directory in the order in which the walk takes them, which no exclusion
changes. -/
def byName (entries : List (String × Node)) : List (String × Node) :=
  entries.mergeSort fun a b => a.1 ≤ b.1

theorem visits_byName (excludes : Exclusion) (entries : List (String × Node)) (access : Access)
    (listed : barred here = none) : visits barred excludes here (.directory entries access) =
      (byName entries).flatMap (entryVisit barred excludes here) := by
  let visited (e : String × Node) := (e.1, entryVisit barred excludes here e)
  have sorted : (entries.map visited).mergeSort (fun a b => a.1 ≤ b.1) =
      (byName entries).map visited :=
    (List.map_mergeSort (f := visited) fun _ _ _ _ => rfl).symm
  rw [visits_listed listed, inOrder, sorted, List.flatMap_map]

theorem mem_byName {e : String × Node} : e ∈ byName entries ↔ e ∈ entries := List.mem_mergeSort

/-- The entries that visits keep. -/
def keptNames (visits : List Visit) : List (List String) :=
  visits.filterMap fun | .kept names => some names | _ => none

theorem files_names (visits : List Visit) :
    (Listing.ofVisits visits).files = (keptNames visits).map Entry.mk := by
  rw [Listing.ofVisits, keptNames, List.map_filterMap]
  apply congrArg (List.filterMap · visits)
  funext v
  cases v <;> rfl

/-- One entry of a directory: it is entered or kept only where the smaller exclusion does so. -/
theorem keptNames_entryVisit (within : excludes.Within other) (e : String × Node)
    (below : keptNames (visits barred other (here ++ [e.1]) e.2) <+
      keptNames (visits barred excludes (here ++ [e.1]) e.2)) :
    keptNames (entryVisit barred other here e) <+
      keptNames (entryVisit barred excludes here e) := by
  rw [entryVisit, entryVisit]
  cases left : other (here ++ [e.1]) e.2.isDirectory with
  | true =>
    have nothing : keptNames (if e.2.isDirectory then [.skipped (here ++ [e.1])] else []) = [] := by
      split <;> rfl
    rw [if_pos rfl, nothing]
    exact List.nil_sublist _
  | false =>
    have kept : ¬ excludes (here ++ [e.1]) e.2.isDirectory = true := fun left' => by
      rw [within _ _ left'] at left
      cases left
    rw [if_neg Bool.false_ne_true, if_neg kept]
    cases directory : e.2.isDirectory with
    | true => exact below
    | false => exact List.Sublist.refl _

/-- At every depth, the larger exclusion keeps some of what the smaller one keeps, in its order. -/
theorem keptNames_visits (within : excludes.Within other) (node : Node) : ∀ here,
    keptNames (visits barred other here node) <+ keptNames (visits barred excludes here node) := by
  induction node using Node.induction with
  | file | link =>
    intro here
    exact List.Sublist.refl _
  | directory entries access ih =>
    intro here
    cases listing : barred here with
    | some reason =>
      rw [visits_barred listing, visits_barred listing]
    | none =>
      rw [visits_byName _ _ _ listing, visits_byName _ _ _ listing, keptNames, keptNames,
        List.filterMap_flatMap, List.filterMap_flatMap]
      apply List.Sublist.flatMap_right
      intro e member
      exact keptNames_entryVisit within e (ih e (mem_byName.mp member) _)

/-- Where the walk meets a directory that it cannot list, the walk that leaves out less meets it
too. -/
theorem unlistable_visits (within : excludes.Within other) (node : Node) {names : List String} :
    ∀ here, .unlistable names reason ∈ visits barred other here node →
      .unlistable names reason ∈ visits barred excludes here node := by
  induction node using Node.induction with
  | file | link => simp [visits]
  | directory entries access ih =>
    intro here stopped
    cases listing : barred here with
    | some reason =>
      rw [visits_barred listing] at stopped ⊢
      exact stopped
    | none =>
      obtain ⟨⟨name, node⟩, member, stopped⟩ := (mem_visits listing).mp stopped
      refine (mem_visits listing).mpr ⟨(name, node), member, ?_⟩
      -- The visit below an entry comes of entering it, which the larger exclusion allowed.
      obtain skipped | kept | ⟨directory, entered, below⟩ := mem_entryVisit stopped
      · cases skipped
      · cases kept
      · have open' : ¬ excludes (here ++ [name]) true = true := fun left => by
          rw [within _ _ left] at entered
          cases entered
        simp only [entryVisit, directory, if_neg open', if_true]
        exact ih _ member _ below

theorem upToFailure_stopped {found : List Visit} {names : List String}
    (stopped : .unlistable names reason ∈ found) :
    ∃ first, (upToFailure found).2 = some first := by
  refine Option.isSome_iff_exists.mp ?_
  rw [upToFailure, List.findSome?_isSome_iff]
  exact ⟨_, stopped, rfl⟩

theorem walk_passed
    (passed : ∀ names reason, .unlistable names reason ∉ visitsFrom d place excludes) :
    (walk d place excludes).result = .ok (.ofVisits (visitsFrom d place excludes)) := by
  simp only [walk, upToFailure_eq passed]

/-- A walk that ends early fails with the directory where it ends. -/
theorem walk_failed {names : List String}
    (failed : (upToFailure (visitsFrom d place excludes)).2 = some (names, reason)) :
    (walk d place excludes).result = .error (.scan (.unlistable (place.append names).text
      ⟨reason, (place.append names).text⟩)) := by
  simp only [walk, failed]

theorem walk_stopped {names : List String}
    (stopped : .unlistable names reason ∈ visitsFrom d place excludes) :
    ∃ failure, (walk d place excludes).result = .error failure := by
  obtain ⟨⟨first, reason⟩, failed⟩ := upToFailure_stopped stopped
  exact ⟨_, walk_failed failed⟩

/-- A walk lists what it keeps unless it meets a directory that it cannot list. -/
theorem walk_eq_ok : (walk d place excludes).result = .ok listing ↔
    (∀ names reason, .unlistable names reason ∉ visitsFrom d place excludes) ∧
      listing = .ofVisits (visitsFrom d place excludes) := by
  constructor
  · intro walked
    have passed (names : List String) (reason : Reason) :
        .unlistable names reason ∉ visitsFrom d place excludes := by
      intro stopped
      obtain ⟨failure, failed⟩ := walk_stopped stopped
      cases walked.symm.trans failed
    exact ⟨passed, Except.ok.inj (walked.symm.trans (walk_passed passed))⟩
  · rintro ⟨passed, rfl⟩
    exact walk_passed passed

/-- The walk has one kind of failure. -/
theorem walk_cases (d : Disk) (place : Path) (excludes : Exclusion) :
    (∃ listing, (walk d place excludes).result = .ok listing) ∨
      ∃ e, (walk d place excludes).result = .error (.scan e) := by
  cases ended : (upToFailure (visitsFrom d place excludes)).2 with
  | some first => exact .inr ⟨_, walk_failed ended⟩
  | none =>
    left
    refine ⟨_, walk_passed fun names reason stopped => ?_⟩
    obtain ⟨first, failed⟩ := upToFailure_stopped stopped
    cases ended.symm.trans failed

/-- If a walk lists its files, a walk that leaves out more lists some of them, in the same order. -/
theorem walk_sublist (within : excludes.Within other)
    (walked : (walk d place excludes).result = .ok listing) :
    ∃ fewer, (walk d place other).result = .ok fewer ∧ fewer.files <+ listing.files := by
  obtain ⟨passed, rfl⟩ := walk_eq_ok.mp walked
  have passed' (names : List String) (reason : Reason) :
      .unlistable names reason ∉ visitsFrom d place other := by
    intro stopped
    refine passed names reason ?_
    unfold visitsFrom at stopped ⊢
    cases found : d.node place with
    | error lost =>
      rw [found] at stopped
      exact stopped
    | ok node =>
      rw [found] at stopped
      exact unlistable_visits within node [] stopped
  refine ⟨_, walk_passed passed', ?_⟩
  rw [files_names, files_names, visitsFrom, visitsFrom]
  cases d.node place with
  | error reason => exact List.Sublist.refl _
  | ok node => exact (keptNames_visits within node []).map _

end LineBudget.Scan
