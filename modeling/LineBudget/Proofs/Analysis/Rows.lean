import LineBudget.Proofs.Analysis.Placement
import LineBudget.Proofs.Analysis.Sums

/-! What the directory rows of a report on a scan hold: the lines of the files whose path leads to
the directory, which are those of the files in it exactly as far as the files are placed. -/
namespace LineBudget.Analysis
open LineBudget.Count LineBudget.Scan LineBudget.Files

/-- The rows about files, or those about directories. -/
def Report.about (r : Report) (subject : Subject) : List Row := r.rows.filter (·.subject = subject)

/-- The lines of all rows about files, or of all about directories. -/
def Report.lines (r : Report) (subject : Subject) : Int := ((r.about subject).map Row.lines).sum

/-- A directory as its row shows it. -/
def shown (place : String) : String := if place = "." then "./" else place ++ "/"

/-- Counts under the paths of their files below the target. -/
def located (counts : List FileCount) (files : List Entry) : List FileCount :=
  (counts.zip files).map fun (count, e) => { count with path := e.path }

/-- The lines of the files that stand directly in a directory. -/
def childLines (counts : List FileCount) (files : List Entry) (mode : Count.Mode) : String → Nat :=
  sumUnder (fun p : FileCount × Entry => p.2.directory) (fun p => p.1.lines mode) (counts.zip files)

/-- The lines of the files whose path leads to a directory. -/
def pathLines (counts : List FileCount) (files : List Entry) (mode : Count.Mode) : String → Nat :=
  sumUnder (fun p : FileCount × Entry => directoryOf p.2.path) (fun p => p.1.lines mode)
    (counts.zip files)

/-- Each directory has a row with the lines of the files directly in it, and no line of a file is
left out of these rows. -/
structure Faithful (r : Report) (listing : Listing) (counts : List FileCount) (mode : Count.Mode) :
    Prop where
  rows : (r.about .directory).map (fun row => (row.path, row.lines)) =
    listing.directories.map fun place =>
      (shown place, (childLines counts listing.files mode place : Int))
  total : r.lines .directory = r.lines .file

variable {counts : List FileCount} {files : List Entry} {listing : Listing} {mode : Count.Mode}
  {limits : Limits} {directories : List String}

theorem analyze_rows (counts : List FileCount) (directories : List String) (mode : Count.Mode)
    (limits : Limits) : (analyze counts directories mode limits).rows =
      counts.map (fileRow limits mode) ++
        directories.map (directoryRow limits (directoryLines counts mode)) := ofRows_rows _

theorem analyze_files (counts : List FileCount) (directories : List String) (mode : Count.Mode)
    (limits : Limits) :
    (analyze counts directories mode limits).about .file = counts.map (fileRow limits mode) := by
  rw [Report.about, analyze_rows, List.filter_append, List.filter_eq_self.mpr (by simp [fileRow]),
    List.filter_eq_nil_iff.mpr (by simp [directoryRow]), List.append_nil]

theorem analyze_directories (counts : List FileCount) (directories : List String)
    (mode : Count.Mode) (limits : Limits) :
    (analyze counts directories mode limits).about .directory =
      directories.map (directoryRow limits (directoryLines counts mode)) := by
  rw [Report.about, analyze_rows, List.filter_append,
    List.filter_eq_nil_iff.mpr (by simp [fileRow]), List.filter_eq_self.mpr (by simp [directoryRow]),
    List.nil_append]

/-- All that a report takes from a count: its path, and its lines in the mode of the report. -/
def reportedOf (mode : Count.Mode) (c : FileCount) : String × Nat := (c.path, c.lines mode)

/-- Counts that differ only in lines that the mode does not ask for have the same report. -/
theorem analyze_congr {counts' : List FileCount}
    (same : counts.map (reportedOf mode) = counts'.map (reportedOf mode)) :
    analyze counts directories mode limits = analyze counts' directories mode limits := by
  have sums (counts : List FileCount) : directoryLines counts mode =
      (counts.map (reportedOf mode)).foldl (fun sums p => addLines (directoryOf p.1) p.2 sums) [] := by
    rw [List.foldl_map]
    rfl
  have rows (counts : List FileCount) : counts.map (fileRow limits mode) =
      (counts.map (reportedOf mode)).map fun p => fileRow limits mode ⟨p.1, p.2, p.2⟩ := by
    rw [List.map_map]
    refine List.map_congr_left fun c _ => ?_
    cases mode <;> rfl
  rw [analyze, analyze, sums, sums, rows, rows, same]

theorem lookup_located (counts : List FileCount) (files : List Entry) (mode : Count.Mode)
    (place : String) : ((directoryLines (located counts files) mode).lookup place).getD 0 =
      pathLines counts files mode place := by
  rw [lookup_directoryLines, located, sumUnder_map]
  cases mode <;> rfl

theorem directory_rows (counts : List FileCount) (files : List Entry) (directories : List String)
    (mode : Count.Mode) (limits : Limits) :
    ((analyze (located counts files) directories mode limits).about .directory).map
        (fun row => (row.path, row.lines)) =
      directories.map fun place => (shown place, (pathLines counts files mode place : Int)) := by
  rw [analyze_directories, List.map_map]
  refine List.map_congr_left fun place _ => ?_
  simp only [Function.comp_apply, directoryRow, lookup_located, shown]

theorem file_rows (counts : List FileCount) (files : List Entry) (directories : List String)
    (mode : Count.Mode) (limits : Limits) :
    ((analyze (located counts files) directories mode limits).about .file).map
        (fun row => (row.path, row.lines)) =
      (counts.zip files).map fun (c, e) => (slashed e.path, (c.lines mode : Int)) := by
  rw [analyze_files, located, List.map_map, List.map_map]
  refine List.map_congr_left fun p _ => ?_
  cases mode <;> rfl

theorem Report.lines_eq (r : Report) (subject : Subject) : r.lines subject =
    (((r.about subject).map fun row => (row.path, row.lines)).map Prod.snd).sum := by
  rw [List.map_map]
  rfl

theorem directory_total (counts : List FileCount) (files : List Entry) (directories : List String)
    (mode : Count.Mode) (limits : Limits) :
    (analyze (located counts files) directories mode limits).lines .directory =
      ((directories.map (pathLines counts files mode)).sum : Nat) := by
  rw [Report.lines_eq, directory_rows, List.map_map, Nat.cast_list_sum, List.map_map]
  rfl

theorem file_total (counts : List FileCount) (files : List Entry) (directories : List String)
    (mode : Count.Mode) (limits : Limits) :
    (analyze (located counts files) directories mode limits).lines .file =
      (((counts.zip files).map fun p => p.1.lines mode).sum : Nat) := by
  rw [Report.lines_eq, file_rows, List.map_map, Nat.cast_list_sum, List.map_map]
  rfl

theorem directories_nodup (listing : Listing) : listing.directories.Nodup := by
  refine (eraseDups_pairwise _).imp fun {a b} less same => ?_
  rw [same] at less
  exact Nat.lt_irrefl _ less

theorem mem_directories (same : counts.length = listing.files.length) {place : String} :
    place ∈ listing.directories ↔ ∃ p ∈ counts.zip listing.files, p.2.directory = place := by
  have files : (counts.zip listing.files).map Prod.snd = listing.files :=
    List.map_snd_zip (by omega)
  rw [Listing.directories, List.mem_eraseDups, ← files, List.map_map, List.mem_map]
  simp only [files, Function.comp_apply]

/-- The rows are those of the directories' own files exactly if every file that has lines is
placed. -/
theorem pathLines_eq_iff (named : ∀ e ∈ listing.files,
      e.names ≠ [] ∧ ∀ part ∈ e.names, ProperName part)
    (same : counts.length = listing.files.length) :
    (∀ place ∈ listing.directories, pathLines counts listing.files mode place =
        childLines counts listing.files mode place) ↔
      ∀ p ∈ counts.zip listing.files, p.1.lines mode ≠ 0 → Placed p.2.names := by
  have entry (p : FileCount × Entry) (member : p ∈ counts.zip listing.files) :
      p.2.names ≠ [] ∧ ∀ part ∈ p.2.names, ProperName part :=
    named p.2 (List.of_mem_zip member).2
  have each : (∀ place ∈ listing.directories, pathLines counts listing.files mode place =
        childLines counts listing.files mode place) ↔
      ∀ p ∈ counts.zip listing.files, p.1.lines mode ≠ 0 →
        directoryOf p.2.path = p.2.directory := by
    rw [pathLines, childLines, ← sumUnder_eq_iff depth fun p member wrong =>
      (directoryOf_deeper (entry p member).1 (entry p member).2 wrong).imp_right
        fun free q _ => free q.2.path]
    simp only [mem_directories same]
    exact ⟨fun all p member => all _ ⟨p, member, rfl⟩,
      fun all place ⟨p, member, here⟩ => here ▸ all p member⟩
  rw [each]
  refine forall₂_congr fun p member => imp_congr_right fun _ => ?_
  exact directoryOf_eq_directory (entry p member).1 (entry p member).2

/-- The directory rows together hold the lines of the files whose path leads to one of them. -/
theorem sum_pathLines (counts : List FileCount) (listing : Listing) (mode : Count.Mode) :
    (listing.directories.map (pathLines counts listing.files mode)).sum =
      (((counts.zip listing.files).filter fun p => directoryOf p.2.path ∈ listing.directories).map
        fun p => p.1.lines mode).sum := sum_sumUnder (directories_nodup listing) _

theorem sum_childLines (same : counts.length = listing.files.length) :
    (listing.directories.map (childLines counts listing.files mode)).sum =
      ((counts.zip listing.files).map fun p => p.1.lines mode).sum := by
  have covered : ∀ p ∈ counts.zip listing.files, p.2.directory ∈ listing.directories :=
    fun p member => (mem_directories same).mpr ⟨p, member, rfl⟩
  rw [childLines, sum_sumUnder (directories_nodup listing),
    List.filter_eq_self.mpr (by simpa using covered)]

/-- A report is faithful exactly if every file that has lines is placed. -/
theorem faithful_iff (named : ∀ e ∈ listing.files,
      e.names ≠ [] ∧ ∀ part ∈ e.names, ProperName part)
    (same : counts.length = listing.files.length) :
    Faithful (analyze (located counts listing.files) listing.directories mode limits) listing
        counts mode ↔
      ∀ p ∈ counts.zip listing.files, p.1.lines mode ≠ 0 → Placed p.2.names := by
  rw [← pathLines_eq_iff named same]
  constructor
  · intro faithful place member
    have rows := faithful.rows
    rw [directory_rows, List.map_inj_left] at rows
    simpa using rows place member
  · intro equal
    refine ⟨?_, ?_⟩
    · rw [directory_rows]
      exact List.map_congr_left fun place member => by rw [equal place member]
    · rw [directory_total, file_total, List.map_congr_left equal, sum_childLines same]

end LineBudget.Analysis
