import LineBudget.Command.Check
import LineBudget.Proofs.Analysis.Rows
import LineBudget.Proofs.Count.Batch
import LineBudget.Proofs.Scan.Target

/-! A check from the scan to the report: what its stages hand on, and what the report then says
about the directories of the target. -/
namespace LineBudget.Command
open LineBudget.Files LineBudget.Config LineBudget.Scan LineBudget.Count LineBudget.Analysis
open scoped List

theorem Stage.andThen_of_ok {α β : Type} {first : Stage α} {next : α → Stage β} {value : α}
    (ended : first.result = .ok value) : (first.andThen next).result = (next value).result := by
  rw [Stage.andThen, ended]

/-- The count of a listed file of a target. -/
def countEntry (d : Disk) (target : Path) (mode : Count.Mode) (e : Entry) :
    Except Count.Failure FileCount :=
  countFile d ((Path.ofLocation (d.canonical target)).append e.names).text mode lineLimit

variable {d : Disk} {settings : Settings} {target : Path} {listing : Listing} {mode : Count.Mode}
  {limits : Limits}

theorem rules_patterns {given : Ignore.Rules} (compiled : rules d settings = .ok given) :
    ∃ user, settings.userPatterns d (currentDirectory d) = .ok user := by
  cases read : settings.userPatterns d (currentDirectory d) with
  | ok user => exact ⟨user, rfl⟩
  | error e =>
    have failed : rules d settings = .error (.load e) := by
      simp only [rules, Settings.excludePatterns, read]
      rfl
    cases failed.symm.trans compiled

theorem scan_patterns (scanned : (scan d settings target).result = .ok listing) :
    ∃ user, settings.userPatterns d (currentDirectory d) = .ok user := by
  obtain ⟨_, given, _, compiled, _⟩ := scan_eq_ok.mp scanned
  exact rules_patterns compiled

theorem countListing_ok {order : List Nat} (once : order ~ List.range listing.files.length)
    (counted : ∀ e ∈ listing.files, ∃ c, countEntry d target mode e = .ok c) :
    ∃ counts, counts.map .ok = listing.files.map (countEntry d target mode) ∧
      (countListing d (.ofLocation (d.canonical target)) listing mode order).result =
        .ok (located counts listing.files) := by
  obtain ⟨paths, listed⟩ : ∃ paths, paths = listing.files.map fun e =>
      ((Path.ofLocation (d.canonical target)).append e.names).text := ⟨_, rfl⟩
  have each : ∀ path ∈ paths, ∃ c, countFile d path mode lineLimit = .ok c := by
    intro path member
    obtain ⟨e, inside, rfl⟩ := List.mem_map.mp (listed ▸ member)
    exact counted e inside
  obtain ⟨counts, outcome, results⟩ := countAll_ok mode.name
    (some (min paths.length mostWorkers : Nat)) (by simpa [listed] using once) each
  subst listed
  rw [List.map_map] at results
  refine ⟨counts, results, ?_⟩
  simp only [countListing, outcome]
  rfl

/-- The report is on what the stages hand on. -/
theorem examine_of_ok {user : UserPatterns} {order : Nat → List Nat} {counts : List FileCount}
    (read : settings.userPatterns d (currentDirectory d) = .ok user)
    (scanned : (scan d settings target).result = .ok listing) (chosen : settings.mode = .ok mode)
    (counted : (countListing d (.ofLocation (d.canonical target)) listing mode
      (order listing.files.length)).result = .ok counts)
    (limited : limits? settings = some limits) :
    (examine d settings target order).result =
      .ok (analyze counts listing.directories mode limits, user.warnings) := by
  rw [examine, Stage.andThen_of_ok (by rw [read]; rfl), Stage.andThen_of_ok (by rw [scanned]; rfl),
    Stage.andThen_of_ok (by rw [chosen]; rfl), Stage.andThen_of_ok counted, limited]

/-- Where all stages succeed, so does the check, with the report on the counted files. -/
theorem examine_ok (order : Nat → List Nat)
    (scanned : (scan d settings target).result = .ok listing) (chosen : settings.mode = .ok mode)
    (limited : limits? settings = some limits)
    (once : order listing.files.length ~ List.range listing.files.length)
    (counted : ∀ e ∈ listing.files, ∃ c, countEntry d target mode e = .ok c) :
    ∃ warnings counts, counts.map .ok = listing.files.map (countEntry d target mode) ∧
      (examine d settings target order).result =
        .ok (analyze (located counts listing.files) listing.directories mode limits, warnings) := by
  obtain ⟨user, read⟩ := scan_patterns scanned
  obtain ⟨counts, results, ended⟩ := countListing_ok once counted
  exact ⟨user.warnings, counts, results, examine_of_ok read scanned chosen ended limited⟩

/-- The row of a directory holds the lines of the files whose path leads there once backslashes
count as slashes. That is the directory of a file exactly if the file is placed, so that the rows
hold the lines of the directories' own files, and together all lines, exactly if every file with
lines is placed. -/
theorem examine_directories (d : Disk) (settings : Settings) (target : Path)
    (order : Nat → List Nat) (listing : Listing) (mode : Count.Mode) (limits : Limits)
    (proper : d.root.ProperNames) (scanned : (scan d settings target).result = .ok listing)
    (chosen : settings.mode = .ok mode) (limited : limits? settings = some limits)
    (once : order listing.files.length ~ List.range listing.files.length)
    (counted : ∀ e ∈ listing.files, ∃ c, countEntry d target mode e = .ok c) :
    ∃ report warnings counts, (examine d settings target order).result = .ok (report, warnings) ∧
      counts.map .ok = listing.files.map (countEntry d target mode) ∧
      (report.about .file).map (fun row => (row.path, row.lines)) =
        (counts.zip listing.files).map (fun (c, e) => (slashed e.path, (c.lines mode : Int))) ∧
      (report.about .directory).map (fun row => (row.path, row.lines)) =
        listing.directories.map (fun place =>
          (shown place, (pathLines counts listing.files mode place : Int))) ∧
      report.lines .directory = (((counts.zip listing.files).filter fun p =>
        directoryOf p.2.path ∈ listing.directories).map fun p => p.1.lines mode).sum ∧
      (∀ e ∈ listing.files, directoryOf e.path = e.directory ↔ Placed e.names) ∧
      (Faithful report listing counts mode ↔
        ∀ p ∈ counts.zip listing.files, p.1.lines mode ≠ 0 → Placed p.2.names) := by
  obtain ⟨warnings, counts, results, ended⟩ := examine_ok order scanned chosen limited once counted
  have named (e : Entry) (member : e ∈ listing.files) := scan_files proper scanned member
  have same : counts.length = listing.files.length := by simpa using congrArg List.length results
  refine ⟨_, warnings, counts, ended, results, file_rows .., directory_rows .., ?_,
    fun e member => directoryOf_eq_directory (named e member).1 (named e member).2,
    faithful_iff named same⟩
  rw [directory_total, sum_pathLines]

/-- A disk with a file of one line below a directory, and another one beside the directory. -/
def besideDirectory (name : String) : Disk :=
  { root := .directory [("a", .directory [("b", .file [0x78, 0x0A] true)] {}),
      (name, .file [0x78, 0x0A] true)] {} }

def keepAll : Settings := { defaultExcludes := false }

theorem besideDirectory_proper {name : String} (proper : ProperName name) :
    (besideDirectory name).root.ProperNames := by
  have below : ProperName "a" ∧ ProperName "b" := by
    unfold ProperName
    decide
  refine .directory (by simp [below, proper]) ?_
  intro e member
  rcases List.mem_pair.mp member with rfl | rfl
  · exact .directory (by simp [below]) (by simpa using .file ..)
  · exact .file ..

/-- Without patterns in the settings and without an ignore file, nothing is left out. -/
theorem rules_unfiltered {d : Disk} {s : Settings} (defaults : s.defaultExcludes = false)
    (given : s.ignore = [])
    (missing : d.node ((currentDirectory d).append [ignoreName]) = .error .notFound)
    (readable : Disk.hasNul ((currentDirectory d).append [ignoreName]) = false) :
    s.userPatterns d (currentDirectory d) = .ok ⟨[], []⟩ ∧ rules d s = .ok ⟨[]⟩ := by
  have absent : d.isFile ((currentDirectory d).append [ignoreName]) = .ok false := by
    rw [Disk.isFile, Disk.test, missing, readable]
    rfl
  have user : s.userPatterns d (currentDirectory d) = .ok ⟨[], []⟩ := by
    simp only [Settings.userPatterns, absent, given]
    rfl
  refine ⟨user, ?_⟩
  simp only [rules, Settings.excludePatterns, user, defaults]
  rfl

theorem keepAll_scan {d : Disk} {p place : Path}
    (missing : d.node ((currentDirectory d).append [ignoreName]) = .error .notFound)
    (readable : Disk.hasNul ((currentDirectory d).append [ignoreName]) = false)
    (reached : directoryOfTarget d p = .ok place) :
    scan d keepAll p = walk d place (exclusion ⟨[]⟩) := by
  simp only [scan, reached, (rules_unfiltered (s := keepAll) rfl rfl missing readable).2]

/-- Where all names are plain, each directory has the lines of its own files. -/
theorem examine_directories_plain : ∃ report warnings,
    (examine (besideDirectory "c") keepAll (Path.ofText ".") List.range).result =
      .ok (report, warnings) ∧
    (report.about .directory).map (fun row => (row.path, row.lines)) = [("a/", 1), ("./", 1)] ∧
    Faithful report ⟨[⟨["a", "b"]⟩, ⟨["c"]⟩]⟩ [⟨"/a/b", 1, 1⟩, ⟨"/c", 1, 1⟩] .all := by
  have scanned : (scan (besideDirectory "c") keepAll (Path.ofText ".")).result =
      .ok ⟨[⟨["a", "b"]⟩, ⟨["c"]⟩]⟩ := by
    rw [keepAll_scan (by cbv) (by cbv) (by cbv)]
    cbv
  have below : countEntry (besideDirectory "c") (Path.ofText ".") .all ⟨["a", "b"]⟩ =
      .ok ⟨"/a/b", 1, 1⟩ := by cbv
  have beside : countEntry (besideDirectory "c") (Path.ofText ".") .all ⟨["c"]⟩ =
      .ok ⟨"/c", 1, 1⟩ := by cbv
  obtain ⟨report, warnings, counts, ended, results, _, rows, _, _, faithful⟩ :=
    examine_directories (besideDirectory "c") keepAll (Path.ofText ".") List.range
      ⟨[⟨["a", "b"]⟩, ⟨["c"]⟩]⟩ .all ⟨300, 2000, 10⟩
      (besideDirectory_proper (by unfold ProperName; decide)) scanned rfl rfl
      (List.Perm.refl _) (by simp [below, beside])
  obtain rfl : counts = [⟨"/a/b", 1, 1⟩, ⟨"/c", 1, 1⟩] :=
    List.map_injective_iff.mpr (fun _ _ => Except.ok.inj) (results.trans (by simp [below, beside]))
  refine ⟨report, warnings, ended, rows.trans (by decide), faithful.mpr fun p member _ => ?_⟩
  have placed : ∀ e ∈ [⟨["a", "b"]⟩, (⟨["c"]⟩ : Entry)], Placed e.names := by decide
  exact placed p.2 (List.of_mem_zip member).2

/-- The line of a file whose name looks like a path is missing in the directory that the file
stands in, and here in all directories. -/
theorem examine_directories_backslash : ∃ report warnings,
    (examine (besideDirectory "c\\b") keepAll (Path.ofText ".") List.range).result =
      .ok (report, warnings) ∧
    (scan (besideDirectory "c\\b") keepAll (Path.ofText ".")).result =
      .ok ⟨[⟨["a", "b"]⟩, ⟨["c\\b"]⟩]⟩ ∧
    (Entry.mk ["c\\b"]).directory = "." ∧
    countEntry (besideDirectory "c\\b") (Path.ofText ".") .all ⟨["c\\b"]⟩ =
      .ok ⟨"/c\\b", 1, 1⟩ ∧
    (report.about .directory).map (fun row => (row.path, row.lines)) = [("a/", 1), ("./", 0)] ∧
    report.lines .directory = 1 ∧ report.lines .file = 2 ∧
    ∀ counts, ¬ Faithful report ⟨[⟨["a", "b"]⟩, ⟨["c\\b"]⟩]⟩ counts .all := by
  have scanned : (scan (besideDirectory "c\\b") keepAll (Path.ofText ".")).result =
      .ok ⟨[⟨["a", "b"]⟩, ⟨["c\\b"]⟩]⟩ := by
    rw [keepAll_scan (by cbv) (by cbv) (by cbv)]
    cbv
  have below : countEntry (besideDirectory "c\\b") (Path.ofText ".") .all ⟨["a", "b"]⟩ =
      .ok ⟨"/a/b", 1, 1⟩ := by cbv
  have beside : countEntry (besideDirectory "c\\b") (Path.ofText ".") .all ⟨["c\\b"]⟩ =
      .ok ⟨"/c\\b", 1, 1⟩ := by cbv
  have chosen : keepAll.mode = .ok .all := rfl
  have limited : limits? keepAll = some ⟨300, 2000, 10⟩ := rfl
  obtain ⟨warnings, counts, results, ended⟩ :=
    examine_ok List.range scanned chosen limited (List.Perm.refl _) (by simp [below, beside])
  obtain rfl : counts = [⟨"/a/b", 1, 1⟩, ⟨"/c\\b", 1, 1⟩] :=
    List.map_injective_iff.mpr (fun _ _ => Except.ok.inj) (results.trans (by simp [below, beside]))
  have directories : (analyze (located [⟨"/a/b", 1, 1⟩, ⟨"/c\\b", 1, 1⟩] [⟨["a", "b"]⟩, ⟨["c\\b"]⟩])
      ["a", "."] .all ⟨300, 2000, 10⟩).lines .directory = 1 := by
    rw [directory_total]
    decide
  have files : (analyze (located [⟨"/a/b", 1, 1⟩, ⟨"/c\\b", 1, 1⟩] [⟨["a", "b"]⟩, ⟨["c\\b"]⟩])
      ["a", "."] .all ⟨300, 2000, 10⟩).lines .file = 2 := by
    rw [file_total]
    decide
  refine ⟨_, warnings, ended, scanned, by decide, beside, ?_, directories, files, ?_⟩
  · rw [directory_rows]
    decide
  · intro counts faithful
    exact absurd (directories.symm.trans (faithful.total.trans files)) (by decide)

end LineBudget.Command
