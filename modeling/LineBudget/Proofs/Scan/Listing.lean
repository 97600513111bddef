import LineBudget.Proofs.Scan.Walk
import LineBudget.Scan.Target
import Mathlib

/-! What a scan lists: the kept entries in order, with the directories that hold them. -/
namespace LineBudget.Scan
open LineBudget.Files LineBudget.Config

variable {barred : Barrier} {excludes other : Exclusion} {found : List Visit} {node root : Node}
  {d : Disk} {directory : Path}

theorem upToFailure_eq (passed : ∀ names reason, .unlistable names reason ∉ found) :
    upToFailure found = (found, none) := by
  simp only [upToFailure, Prod.mk.injEq, List.takeWhile_eq_self_iff, List.findSome?_eq_none_iff]
  constructor
  all_goals
    intro v member
    cases v with
    | unlistable names reason => exact absurd member (passed names reason)
    | kept | skipped => rfl

theorem mem_files {e : Entry} : e ∈ (Listing.ofVisits found).files ↔ .kept e.names ∈ found := by
  simp only [Listing.ofVisits, List.mem_filterMap]
  constructor
  · rintro ⟨v, member, same⟩
    cases v with
    | kept names => cases same; exact member
    | skipped | unlistable => cases same
  · intro member
    exact ⟨_, member, rfl⟩

/-- Repeats go, and what is left stands in the order of the first occurrences. -/
theorem eraseDups_pairwise (texts : List String) :
    texts.eraseDups.Pairwise fun a b => texts.idxOf a < texts.idxOf b := by
  induction texts using List.reverseRecOn with
  | nil => exact List.Pairwise.nil
  | append_singleton texts text ih =>
    rw [List.eraseDups_append, List.pairwise_append]
    refine ⟨ih.imp_of_mem fun first second less => ?_, ?_, fun a before b new => ?_⟩
    · rw [List.idxOf_append_of_mem (List.mem_eraseDups.mp first),
        List.idxOf_append_of_mem (List.mem_eraseDups.mp second)]
      exact less
    · by_cases seen : text ∈ texts <;> simp [List.removeAll, List.eraseDups_cons, seen]
    · by_cases seen : text ∈ texts
      · simp [List.removeAll, seen] at new
      · obtain rfl : b = text := by simpa [List.removeAll, seen] using new
        have before := List.mem_eraseDups.mp before
        rw [List.idxOf_append_of_mem before, List.idxOf_append_of_notMem seen]
        have := List.idxOf_lt_length_of_mem before
        omega

/-- An entry lies in the directory of its names without the last. -/
theorem Entry.exists_above {e : Entry} (nonempty : e.names ≠ []) :
    ∃ above name, e.names = above ++ [name] ∧
      (above = [] → e.directory = "." ∧ e.path = name) ∧
      (above ≠ [] → e.directory = "/".intercalate above ∧
        e.path = e.directory ++ "/" ++ name) := by
  obtain ⟨above, name, names⟩ := (List.eq_nil_or_concat e.names).resolve_left nonempty
  rw [List.concat_eq_append] at names
  have directory : e.directory = relative above := by
    rw [Entry.directory, names, List.dropLast_concat]
  refine ⟨above, name, names, ?_, fun nonempty => ?_⟩
  · rintro rfl
    refine ⟨by rw [directory]; rfl, ?_⟩
    simp [Entry.path, names]
  · have inner : e.directory = "/".intercalate above := by
      simp [directory, relative, nonempty]
    refine ⟨inner, ?_⟩
    rw [inner, Entry.path, names, String.intercalate_append_of_ne_nil nonempty (by simp),
      String.intercalate_singleton]

theorem visitsFrom_node (found : d.node directory = .ok root) :
    visitsFrom d directory excludes = visits (barrier d directory) excludes [] root := by
  rw [visitsFrom, found]

theorem walk_files {listing : Listing} {e : Entry}
    (walked : (walk d directory excludes).result = .ok listing) (member : e ∈ listing.files) :
    ∃ node, d.node directory = .ok node ∧
      .kept e.names ∈ visits (barrier d directory) excludes [] node := by
  have kept : .kept e.names ∈ visitsFrom d directory excludes := by
    simp only [walk] at walked
    split at walked
    · cases walked
    · cases walked
      exact (List.takeWhile_sublist _).mem (mem_files.mp member)
  unfold visitsFrom at kept
  split at kept
  · exact ⟨_, ‹_›, kept⟩
  · cases List.mem_singleton.mp kept

/-- Every listed file lies below the target, under names as a tree has them. -/
theorem scan_files {s : Settings} {target : Path} {listing : Listing} {e : Entry}
    (proper : d.root.ProperNames) (scanned : (scan d s target).result = .ok listing)
    (member : e ∈ listing.files) : e.names ≠ [] ∧ ∀ part ∈ e.names, ProperName part := by
  unfold scan at scanned
  split at scanned
  · cases scanned
  · split at scanned
    · cases scanned
    · obtain ⟨node, found, kept⟩ := walk_files scanned member
      obtain ⟨rest, names, below, parts⟩ := visits_names node [] kept
      rw [List.nil_append] at names
      exact ⟨names ▸ below, names ▸ parts (Disk.node_throughout proper found)⟩

end LineBudget.Scan
