import LineBudget.Proofs.Scan.Barred
import LineBudget.Proofs.Files.Lookup

/-! Trees that a walk cannot tell apart. They show the same names and kinds in each directory that
the walk enters; the walk never looks into what is left out, and it reads no file. -/
namespace LineBudget.Scan
open LineBudget.Files LineBudget.Config
open scoped List

/-- Names below which the walk goes have entries of the same names and kinds in both trees, and the
directories that the walk comes to can be listed in both, or in none for the same reason. -/
structure ShowsSame (barred barred' : Barrier) (excludes : Exclusion) (root root' : Node) :
    Prop where
  kinds : ∀ names, Open excludes names →
    (root.find? names).map Node.isDirectory = (root'.find? names).map Node.isDirectory
  listable : ∀ names, Open excludes names → (names ≠ [] → excludes names true = false) →
    (root.find? names).map Node.isDirectory = some true → barred names = barred' names

/-- What the walk sees of an entry before it enters it. -/
def outline (e : String × Node) : String × Bool := (e.1, e.2.isDirectory)

variable {barred barred' : Barrier} {excludes : Exclusion} {here names : List String}
  {name : String} {node node' : Node} {entries entries' : List (String × Node)} {access access' : Access}
  {root root' : Node} {d d' : Disk} {place place' : Path} {listing : Listing}

theorem sortedByName_eq {α : Type} {found found' : List (String × α)} (same : found ~ found')
    (distinct : (found.map (·.1)).Nodup) :
    (found.mergeSort fun a b => a.1 ≤ b.1) = found'.mergeSort fun a b => a.1 ≤ b.1 := by
  have distinct' : (found'.map (·.1)).Nodup := (same.map _).nodup_iff.mp distinct
  refine List.Perm.eq_of_pairwise (fun a b _ _ less more => ?_) (sorted_by_name distinct)
    (sorted_by_name distinct') ?_
  · exact absurd (less.trans more) (lt_irrefl _)
  · exact ((List.mergeSort_perm ..).trans same).trans (List.mergeSort_perm ..).symm

theorem outline_byName (entries : List (String × Node)) : (byName entries).map outline =
    (entries.map outline).mergeSort fun a b => a.1 ≤ b.1 :=
  List.map_mergeSort fun _ _ _ _ => rfl

theorem mem_outline (distinct : (Node.directory entries access).DistinctNames) {kind : Bool} :
    (name, kind) ∈ entries.map outline ↔
      ((Node.directory entries access).find? [name]).map Node.isDirectory = some kind := by
  rw [List.mem_map, Option.map_eq_some_iff]
  constructor
  · rintro ⟨⟨other, node⟩, member, same⟩
    cases same
    exact ⟨node, Node.find?_entry distinct member [], rfl⟩
  · rintro ⟨node, found, rfl⟩
    obtain ⟨other, here, there⟩ := Option.bind_eq_some_iff.mp found
    cases there
    exact ⟨_, mem_of_lookup here, rfl⟩

theorem open_single (excludes : Exclusion) (name : String) : Open excludes [name] :=
  open_cons.mpr ⟨absurd rfl, open_nil⟩

namespace ShowsSame

theorem symm (shows : ShowsSame barred barred' excludes root root') :
    ShowsSame barred' barred excludes root' root :=
  ⟨fun names free => (shows.kinds names free).symm, fun names free entered directory =>
    (shows.listable names free entered ((shows.kinds names free).trans directory)).symm⟩

/-- Beside files, a directory that is left out may stand for any other one. -/
theorem replaced (left : excludes [name] true = true) (directory : node.isDirectory = true)
    (directory' : node'.isDirectory = true) (flat : ∀ e ∈ entries, e.2.isDirectory = false)
    (start : barred [] = barred' []) :
    ShowsSame barred barred' excludes (.directory (setEntry name node entries) access)
      (.directory (setEntry name node' entries) access) := by
  have elsewhere {other : String} (rest : List String) (entered : excludes [other] true = false)
      (node : Node) : (Node.directory (setEntry name node entries) access).find? (other :: rest) =
        (Node.directory entries access).find? (other :: rest) := by
    have differs : other ≠ name := by
      rintro rfl
      cases left.symm.trans entered
    rw [Node.find?_cons, Node.find?_cons, Node.entries, Node.entries, lookup_setEntry,
      if_neg differs]
  constructor
  · intro names free
    cases names with
    | nil => rfl
    | cons other rest =>
      cases rest with
      | nil =>
        rw [Node.find?_cons, Node.find?_cons, Node.entries, Node.entries, lookup_setEntry,
          lookup_setEntry]
        by_cases same : other = name
        · simp [same, Node.find?, directory, directory']
        · simp [same]
      | cons next rest =>
        have entered := (open_cons.mp free).1 (by simp)
        rw [elsewhere _ entered, elsewhere _ entered]
  · intro names free passed found
    cases names with
    | nil => exact start
    | cons other rest =>
      have entered : excludes [other] true = false := by
        cases rest with
        | nil => exact passed (by simp)
        | cons next rest => exact (open_cons.mp free).1 (by simp)
      obtain ⟨leaf, there, directory⟩ := Option.map_eq_some_iff.mp found
      rw [elsewhere _ entered] at there
      obtain ⟨e, member, _, rfl⟩ := Node.find?_flat flat (by simp) there
      cases (flat e member).symm.trans directory

/-- The walk takes the entries of both directories in one order, with the same names and kinds. -/
theorem outlines
    (shows : ShowsSame barred barred' excludes (.directory entries access)
      (.directory entries' access'))
    (distinct : (Node.directory entries access).DistinctNames)
    (distinct' : (Node.directory entries' access').DistinctNames) :
    (byName entries).map outline = (byName entries').map outline := by
  have names (entries : List (String × Node)) : (entries.map outline).map (·.1) =
      entries.map (·.1) := by rw [List.map_map]; rfl
  have unique : ((entries.map outline).map (·.1)).Nodup := names entries ▸ distinct.names
  have unique' : ((entries'.map outline).map (·.1)).Nodup := names entries' ▸ distinct'.names
  rw [outline_byName, outline_byName]
  refine sortedByName_eq ?_ unique
  rw [List.perm_ext_iff_of_nodup (.of_map _ unique) (.of_map _ unique')]
  rintro ⟨name, kind⟩
  rw [mem_outline distinct, mem_outline distinct', shows.kinds [name] (open_single excludes name)]

/-- Trees that show the same do so in each directory that is entered. -/
theorem entry (shows : ShowsSame (barred.below here) (barred'.below here) (excludes.below here)
      (.directory entries access) (.directory entries' access'))
    (distinct : (Node.directory entries access).DistinctNames)
    (distinct' : (Node.directory entries' access').DistinctNames)
    (member : (name, node) ∈ entries) (member' : (name, node') ∈ entries')
    (entered : excludes (here ++ [name]) true = false) :
    ShowsSame (barred.below (here ++ [name])) (barred'.below (here ++ [name]))
      (excludes.below (here ++ [name])) node node' := by
  have further {names : List String} (free : Open (excludes.below (here ++ [name])) names) :
      Open (excludes.below here) (name :: names) :=
    open_cons.mpr ⟨fun _ => entered, (below_below ..).symm ▸ free⟩
  constructor
  · intro names free
    have same := shows.kinds (name :: names) (further free)
    rwa [Node.find?_entry distinct member, Node.find?_entry distinct' member'] at same
  · intro names free passed directory
    have within : excludes.below here (name :: names) true = false := by
      cases names with
      | nil => exact entered
      | cons next names => simpa [Exclusion.below] using passed (by simp)
    have same := shows.listable (name :: names) (further free) fun _ => within
    rw [Node.find?_entry distinct member] at same
    simpa [Barrier.below] using same directory

end ShowsSame

/-- At every depth, trees that show the same have the same visits. -/
theorem visits_shown (node : Node) : ∀ here node', node.DistinctNames → node'.DistinctNames →
    ShowsSame (barred.below here) (barred'.below here) (excludes.below here) node node' →
    visits barred excludes here node = visits barred' excludes here node' := by
  have leaf {node node' : Node} {here : List String} (plain : node.isDirectory = false)
      (plain' : node'.isDirectory = false) :
      visits barred excludes here node = visits barred' excludes here node' := by
    cases node <;> cases node' <;> simp_all [Node.isDirectory, visits]
  have start {node node' : Node} {here : List String}
      (shows : ShowsSame (barred.below here) (barred'.below here) (excludes.below here)
        node node') :
      node.isDirectory = node'.isDirectory := by
    simpa [Node.find?] using shows.kinds [] open_nil
  induction node using Node.induction with
  | file | link => exact fun here node' _ _ shows => leaf rfl (start shows).symm
  | directory entries access ih =>
    intro here node' distinct distinct' shows
    have same : barred here = barred' here := by
      simpa [Barrier.below] using shows.listable [] open_nil (absurd rfl) rfl
    cases node' with
    | file | link => cases start shows
    | directory entries' access' =>
      cases listing : barred here with
      | some reason =>
        rw [visits_barred listing, visits_barred (same ▸ listing)]
      | none =>
        have listing' : barred' here = none := same ▸ listing
        have outlines := shows.outlines distinct distinct'
        have length : (byName entries).length = (byName entries').length := by
          simpa using congrArg List.length outlines
        rw [visits_byName _ _ _ listing, visits_byName _ _ _ listing', List.flatMap_def,
          List.flatMap_def]
        refine congrArg List.flatten (List.ext_getElem (by simpa using length) ?_)
        -- Entry by entry in the order of the names, which is one order for both.
        intro i within within'
        rw [List.length_map] at within within'
        rw [List.getElem_map, List.getElem_map]
        have member := mem_byName.mp (List.getElem_mem within)
        have member' := mem_byName.mp (List.getElem_mem within')
        have alike : outline (byName entries)[i] = outline (byName entries')[i] := by
          have there := congrArg (·[i]?) outlines
          simpa [within, within'] using there
        generalize (byName entries)[i] = e at member alike
        generalize (byName entries')[i] = e' at member' alike
        obtain ⟨name, node⟩ := e
        obtain ⟨other, node'⟩ := e'
        obtain ⟨rfl, kind⟩ : name = other ∧ node.isDirectory = node'.isDirectory := by
          simpa [outline] using alike
        rw [entryVisit, entryVisit, kind]
        split_ifs with left directory directory
        · rfl
        · rfl
        · have entered : excludes (here ++ [name]) true = false := by
            simpa [directory] using left
          exact ih _ member _ _ (distinct.entry member) (distinct'.entry member')
            (shows.entry distinct distinct' member member' entered)
        · rfl

/-- What the walk comes by as an entry is kept, even where the walk ends early. -/
theorem visits_kept (node : Node) : ∀ here, node.DistinctNames →
    .kept names ∈ visits barred excludes here node →
      ∃ rest, names = here ++ rest ∧ Kept (excludes.below here) node rest := by
  induction node using Node.induction with
  | file | link => simp [visits]
  | directory entries access ih =>
    intro here distinct visited
    cases listing : barred here with
    | some reason =>
      rw [visits_barred listing] at visited
      cases List.mem_singleton.mp visited
    | none =>
      obtain ⟨⟨name, node⟩, member, visited⟩ := (mem_visits listing).mp visited
      simp only [entryVisit] at visited
      split_ifs at visited with left directory directory
      · cases List.mem_singleton.mp visited
      · cases visited
      · obtain ⟨rest, rfl, kept⟩ := ih _ member _ (distinct.entry member) visited
        refine ⟨name :: rest, by simp, (kept_entry distinct member).mpr ?_⟩
        rw [if_pos directory, below_below]
        exact ⟨by simpa [directory, Exclusion.below] using left, kept⟩
      · cases List.mem_singleton.mp visited
        refine ⟨[name], rfl, (kept_entry distinct member).mpr ?_⟩
        rw [if_neg directory]
        exact ⟨rfl, by simpa [directory, Exclusion.below] using left⟩

theorem visitsFrom_shown (found : d.node place = .ok root) (found' : d'.node place' = .ok root')
    (distinct : root.DistinctNames) (distinct' : root'.DistinctNames)
    (shows : ShowsSame (barrier d place) (barrier d' place') excludes root root') :
    visitsFrom d place excludes = visitsFrom d' place' excludes := by
  have shows : ShowsSame ((barrier d place).below []) ((barrier d' place').below [])
      (excludes.below []) root root' := shows
  rw [visitsFrom, visitsFrom, found, found']
  exact visits_shown root [] root' distinct distinct' shows

/-- Where the walk has not come by any directory that it cannot list, there is none. -/
theorem listable_of_passed (found : d.node place = .ok root) (distinct : root.DistinctNames)
    (passed : ∀ names reason, .unlistable names reason ∉ visitsFrom d place excludes) :
    Listable (barrier d place) excludes root := by
  intro names entries access there entered free
  by_contra some
  obtain ⟨reason, stopped⟩ := Option.ne_none_iff_exists'.mp some
  have on_way : Entered excludes names := by
    intro above nonempty within
    by_cases same : above = names
    · subst same
      exact entered nonempty
    · exact free above nonempty within same
  have stops : Barred ((barrier d place).below []) (excludes.below []) root names reason :=
    ⟨⟨entries, access, there⟩, stopped, on_way⟩
  obtain ⟨above, why, _, visited⟩ := visit_of_barred root [] names distinct stops
  rw [visitsFrom_node found] at passed
  exact passed above why visited

/-- Every entry of a listing is kept. -/
theorem walk_kept (found : d.node place = .ok root) (distinct : root.DistinctNames)
    (walked : (walk d place excludes).result = .ok listing) {e : Entry}
    (listed : e ∈ listing.files) : Kept excludes root e.names := by
  obtain ⟨node, there, visited⟩ := walk_files walked listed
  obtain rfl : root = node := Except.ok.inj (found.symm.trans there)
  obtain ⟨rest, names, kept⟩ := visits_kept root [] distinct visited
  rw [names]
  exact kept

end LineBudget.Scan
