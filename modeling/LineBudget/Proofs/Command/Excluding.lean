import LineBudget.Proofs.Command.Effective
import LineBudget.Proofs.Command.Modes
import LineBudget.Proofs.Scan.Excluding

/-! A check that leaves out more than another one: it fails only where the other one does, and its
report has no worse verdict on anything. -/
namespace LineBudget.Command
open LineBudget.Files LineBudget.Config LineBudget.Scan LineBudget.Count LineBudget.Analysis
open scoped List

variable {d d' : Disk} {settings settings' : Settings} {target : Path} {r r' : Ignore.Rules}
  {files files' : List Entry} {counts : List FileCount} {listing : Listing}

theorem scan_ok (scanned : (scan d settings target).result = .ok listing)
    (compiled : rules d settings = .ok r) :
    ∃ place, directoryOfTarget d target = .ok place ∧
      (walk d place (exclusion r)).result = .ok listing := by
  obtain ⟨place, given, found, same, walked⟩ := scan_eq_ok.mp scanned
  cases same.symm.trans compiled
  exact ⟨place, found, walked⟩

/-- A scan that leaves out more lists some of the files, in the same order. -/
theorem scan_sublist (same : SameTarget d d' target) (compiled : rules d settings = .ok r)
    (compiled' : rules d' settings' = .ok r') (within : (exclusion r).Within (exclusion r'))
    (scanned : (scan d settings target).result = .ok listing) :
    ∃ fewer, (scan d' settings' target).result = .ok fewer ∧ fewer.files <+ listing.files := by
  obtain ⟨place, found, walked⟩ := scan_ok scanned compiled
  obtain ⟨fewer, walked', sublist⟩ := walk_sublist within walked
  refine ⟨fewer, ?_, sublist⟩
  simp only [scan, ← same.reached, found, compiled', ← same.walk found]
  exact walked'

/-- What was counted of all files gives the counts of some of them. -/
theorem counts_sublist {count : Entry → Except Count.Failure FileCount} (fewer : files' <+ files)
    (counted : counts.map .ok = files.map count) :
    ∃ part : List FileCount, part.map .ok = files'.map count ∧ part.zip files' <+ counts.zip files := by
  induction fewer generalizing counts with
  | slnil => exact ⟨[], rfl, List.nil_sublist _⟩
  | cons e _ ih =>
    obtain ⟨c, later, rfl, _, others⟩ := List.map_eq_cons_iff.mp counted
    obtain ⟨part, counted', sublist⟩ := ih others
    exact ⟨part, counted', sublist.cons _⟩
  | cons_cons e _ ih =>
    obtain ⟨c, later, rfl, first, others⟩ := List.map_eq_cons_iff.mp counted
    obtain ⟨part, counted', sublist⟩ := ih others
    exact ⟨c :: part, congrArg₂ (· :: ·) first counted', sublist.cons_cons _⟩

/-- What the stages hand on where nothing is left out that the other run lists: some of its files
with their counts. -/
theorem examined_sublist (same : SameTarget d d' target) (compiled : rules d settings = .ok r)
    (compiled' : rules d' settings' = .ok r') (within : (exclusion r).Within (exclusion r'))
    (ruled : settings'.rules = settings.rules) (moded : settings'.countMode = settings.countMode)
    (x : Examined d settings target) :
    ∃ y : Examined d' settings' target, y.mode = x.mode ∧ y.limits = x.limits ∧
      y.listing.files <+ x.listing.files ∧
      y.counts.zip y.listing.files <+ x.counts.zip x.listing.files := by
  obtain ⟨_, listing, mode, limits, counts, _, scanned, chosen, limited, counted⟩ := x
  obtain ⟨fewer, scanned', sublist⟩ := scan_sublist same compiled compiled' within scanned
  obtain ⟨user, read⟩ := scan_patterns scanned'
  obtain ⟨part, counted', together⟩ := counts_sublist sublist counted
  rw [same.countEntry] at counted'
  refine ⟨⟨user, fewer, mode, limits, part, read, scanned', ?_, ?_, counted'⟩, rfl, rfl, sublist,
    together⟩
  · rw [Settings.mode, moded]
    exact chosen
  · rw [limits?, ruled]
    exact limited

theorem directories_subset {fewer : Listing} (sublist : fewer.files <+ listing.files) :
    fewer.directories ⊆ listing.directories := by
  intro place member
  rw [Listing.directories, List.mem_eraseDups] at member ⊢
  exact (sublist.map _).subset member

/-- A report on some of the files: their rows are unchanged, and the directories that are left have
rows that are no worse. -/
structure Fewer (r other : Report) : Prop where
  files : r.about .file <+ other.about .file
  directories : ∀ row ∈ r.about .directory,
    ∃ counterpart ∈ other.about .directory, row.NoWorse counterpart
  /-- A directory that has a row in both has no worse one here. -/
  both : ∀ row ∈ r.about .directory, ∀ counterpart ∈ other.about .directory,
    row.path = counterpart.path → row.NoWorse counterpart

section Fewer
variable {x : Examined d settings target} {y : Examined d' settings' target}

theorem examined_fewer (mode : y.mode = x.mode) (limits : y.limits = x.limits)
    (files : y.listing.files <+ x.listing.files)
    (together : y.counts.zip y.listing.files <+ x.counts.zip x.listing.files) :
    Fewer y.report x.report := by
  let sums (counts : List FileCount) (files : List Entry) : List (String × Nat) :=
    directoryLines (located counts files) x.mode
  have row (place : String) :
      (directoryRow x.limits (sums y.counts y.listing.files) place).NoWorse
        (directoryRow x.limits (sums x.counts x.listing.files) place) :=
    directories_noWorse together x.limits place
  constructor
  · rw [Examined.report, Examined.report, analyze_files, analyze_files, mode, limits]
    exact (located_sublist together).map _
  · rw [Examined.report, Examined.report, analyze_directories, analyze_directories, mode, limits]
    intro _ member
    obtain ⟨place, listed, rfl⟩ := List.mem_map.mp member
    exact ⟨_, List.mem_map_of_mem (directories_subset files listed), row place⟩
  · rw [Examined.report, Examined.report, analyze_directories, analyze_directories, mode, limits]
    intro _ member _ member' same
    -- A row shows the directory it is about, so rows with one text are about one directory.
    obtain ⟨place, _, rfl⟩ := List.mem_map.mp member
    obtain ⟨place', _, rfl⟩ := List.mem_map.mp member'
    obtain rfl : place = place' := shown_injective same
    exact row place

theorem examined_relaxes (mode : y.mode = x.mode) (limits : y.limits = x.limits)
    (files : y.listing.files <+ x.listing.files)
    (together : y.counts.zip y.listing.files <+ x.counts.zip x.listing.files) :
    y.report.Relaxes x.report := by
  obtain ⟨unchanged, directories, _⟩ := examined_fewer mode limits files together
  have rows (z : Report) (row : Row) :
      row ∈ z.rows ↔ row ∈ z.about .file ∨ row ∈ z.about .directory := by
    simp only [Report.about, List.mem_filter, decide_eq_true_eq, ← and_or_left]
    cases row.subject <;> simp
  constructor
  · intro row member
    rcases (rows _ row).mp member with file | directory
    · exact ⟨row, (rows _ row).mpr (.inl (unchanged.subset file)), .refl row⟩
    · obtain ⟨counterpart, present, noWorse⟩ := directories row directory
      exact ⟨counterpart, (rows _ counterpart).mpr (.inr present), noWorse⟩
  · have places := (List.subperm_of_subset (directories_nodup y.listing)
      (directories_subset files)).length_le
    rw [Examined.report, Examined.report, analyze_rows, analyze_rows, List.length_append,
      List.length_append]
    simp only [List.length_map]
    exact Nat.add_le_add (located_sublist together).length_le places

end Fewer

/-- Two checks of one target whose settings differ in nothing but what is left out. The second one
leaves out whatever the first one does. -/
structure Narrows (s s' : Surroundings) (request request' : CheckRequest)
    (settings settings' : Settings) : Prop where
  target : request.target = request'.target
  format : request.format = request'.format
  same : SameTarget s.disk s'.disk (Path.ofText request.target)
  rules : settings'.rules = settings.rules
  mode : settings'.countMode = settings.countMode
  begun : Begun s request settings
  begun' : Begun s' request' settings'
  within : ∃ r r', Scan.rules s.disk settings = .ok r ∧ Scan.rules s'.disk settings' = .ok r' ∧
    (exclusion r).Within (exclusion r')

/-- To leave out more never makes a violation. If a check ends with a report, so does one that leaves
out more: it lists some of the files in the same order, with the rows that they had, and no directory
has a worse row. The exit code is no higher. -/
theorem check_excluding (s s' : Surroundings) (request request' : CheckRequest)
    (settings settings' : Settings) (order order' : Nat → List Nat)
    (once : ∀ n, order n ~ List.range n) (once' : ∀ n, order' n ~ List.range n)
    (narrows : Narrows s s' request request' settings settings')
    (fine : (check s request order).exit = 0 ∨ (check s request order).exit = 1) :
    let first := check s request order
    let second := check s' request' order'
    (second.exit = 0 ∨ second.exit = 1) ∧ second.exit ≤ first.exit ∧
    ∃ (x : Examined s.disk settings (Path.ofText request.target))
      (y : Examined s'.disk settings' (Path.ofText request.target)),
      Reported request.format x.report first ∧ Reported request.format y.report second ∧
      y.listing.files <+ x.listing.files ∧ Fewer y.report x.report := by
  intro first second
  obtain ⟨target, format, same, ruled, moded, begun, begun', r, r', compiled, compiled', within⟩ :=
    narrows
  have ends := begun'.reported once'
  rw [← target, ← format] at ends
  rcases begun.cases once with ⟨_, exit, _⟩ | ⟨x, reported⟩
  · exact absurd fine (by rw [exit]; decide)
  obtain ⟨y, mode, limits, files, together⟩ :=
    examined_sublist same compiled compiled' within ruled moded x
  have lower : second.exit ≤ first.exit :=
    reported.exit_le x y (examined_relaxes mode limits files together) (ends y)
  have failing : first.exit = 0 ∨ first.exit = 1 := fine
  refine ⟨?_, lower, x, y, reported, ends y, files, examined_fewer mode limits files together⟩
  omega

/-- Nothing is left out without patterns. -/
theorem unfiltered_within (excludes : Exclusion) : (exclusion ⟨[]⟩).Within excludes :=
  fun _ _ left => by cases left

theorem rules_listed {s : Settings} (defaults : s.defaultExcludes = false)
    (missing : d.node (ignorePlace d) = .error .notFound)
    (readable : Disk.hasNul (ignorePlace d) = false) :
    rules d s = (Ignore.Rules.ofTexts s.ignore).mapError .pattern := by
  have absent : d.isFile (ignorePlace d) = .ok false := by
    rw [Disk.isFile, Disk.test, missing, readable]
    rfl
  rw [ignorePlace] at absent
  simp only [rules, Settings.excludePatterns, Settings.userPatterns, absent, defaults]
  rfl

/-- A check that leaves out everything, beside one that leaves out nothing. -/
theorem check_excluding_everything :
    let request := inMode .text 1 .all
    let wide : CheckRequest :=
      { request with overrides := { request.overrides with ignore := some ["*"] } }
    (check twoLines wide List.range).exit ≤ (check twoLines request List.range).exit := by
  intro request wide
  have once (n : Nat) : List.range n ~ List.range n := List.Perm.refl _
  have positive : (0 : Int) < 1 := by decide
  have begun := inMode_begun .text positive .all
  have missing : twoLines.disk.node (ignorePlace twoLines.disk) = .error .notFound :=
    configured_unignored (by decide)
  have everything : Ignore.Rules.ofTexts ["*"] = .ok ⟨[⟨false, .everything⟩]⟩ := by cbv
  have narrows : Narrows twoLines twoLines request wide (counting (inModeSettings 1) .all)
      { counting (inModeSettings 1) .all with ignore := ["*"] } := by
    refine ⟨rfl, rfl, .refl .., rfl, rfl, begun, ⟨begun.named, ⟨{}, configured_load _, rfl⟩,
      ⟨begun.valid.file, begun.valid.directory, begun.valid.percentage, begun.valid.mode,
        begun.valid.language⟩⟩, ⟨[]⟩, ⟨[⟨false, .everything⟩]⟩, ?_, ?_, unfiltered_within _⟩
    · exact rules_listed rfl missing (by decide)
    · refine (rules_listed rfl missing (by decide)).trans ?_
      exact congrArg (Except.mapError _) everything
  obtain ⟨x, _⟩ := exists_examined 1
  have fine : (check twoLines request List.range).exit = 0 ∨
      (check twoLines request List.range).exit = 1 := by
    cases begun.reported once x with
    | written _ _ _ exit _ => exact exit ▸ reportCode_le x.report
    | unwritable failed _ _ => cases failed
  exact (check_excluding twoLines twoLines request wide _ _ List.range List.range once once narrows
    fine).2.1

end LineBudget.Command
