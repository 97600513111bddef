import LineBudget.Proofs.Command.Counterpart
import LineBudget.Proofs.Command.Modes
import LineBudget.Proofs.Count.Content
import LineBudget.Proofs.Language.Detection
import LineBudget.Proofs.Scan.Shown

/-! Where a target lies, and how it is named. Files are opened under their full paths, but listed,
matched and reported by their names below the target, so that targets which hold the same have the
same report. -/
namespace LineBudget.Command
open LineBudget.Files LineBudget.Config LineBudget.Scan LineBudget.Count LineBudget.Analysis
open scoped List

/-- Two targets that lead to directories which hold the same: names and kinds, directories of which
both or none can be listed at their places, and files that read the same where they can be read. -/
structure HoldSame (d : Disk) (target target' place place' : Path) (root root' : Node) : Prop where
  reached : directoryOfTarget d target = .ok place
  reached' : directoryOfTarget d target' = .ok place'
  found : d.node place = .ok root
  found' : d.node place' = .ok root'
  kinds : ∀ names,
    (root.find? names).map Node.isDirectory = (root'.find? names).map Node.isDirectory
  listable : ∀ names, (root.find? names).map Node.isDirectory = some true →
    (d.listingRefused? (place.append names) = none ↔ d.listingRefused? (place'.append names) = none)
  contents : ∀ names, (root.find? names).map Node.isDirectory = some false → ∀ content,
    d.read (Path.ofText (place.append names).text) = .ok content ↔
      d.read (Path.ofText (place'.append names).text) = .ok content

/-- The path of a file goes into its count only as far as it tells the grammar. -/
theorem countContent_detect {path path' : String} {mode : Count.Mode} {limit : Int}
    {content : List UInt8} {c : FileCount} (same : Language.detect path = Language.detect path')
    (counted : countContent path mode limit content = .ok c) :
    ∃ c', countContent path' mode limit content = .ok c' ∧ c'.lines mode = c.lines mode := by
  unfold countContent at counted ⊢
  cases read : Line.textLines limit content with
  | error tooLong => simp [read] at counted
  | ok lines =>
    cases mode with
    | all =>
      simp only [read, Except.ok.injEq] at counted
      subst counted
      exact ⟨_, rfl, rfl⟩
    | codeOnly =>
      simp only [read, Except.ok.injEq] at counted
      subst counted
      rw [same]
      exact ⟨_, rfl, rfl⟩

namespace HoldSame
variable {d : Disk} {target target' place place' : Path} {root root' : Node} {settings : Settings}
  {listing : Listing} {e : Entry}

theorem symm (same : HoldSame d target target' place place' root root') :
    HoldSame d target' target place' place root' root where
  reached := same.reached'
  reached' := same.reached
  found := same.found'
  found' := same.found
  kinds names := (same.kinds names).symm
  listable names directory := (same.listable names (same.kinds names ▸ directory)).symm
  contents names leaf content := (same.contents names (same.kinds names ▸ leaf) content).symm

/-- Where the walk of one target can list all directories, that of the other one can. -/
theorem shows (same : HoldSame d target target' place place' root root') {excludes : Exclusion}
    (listable : Listable (barrier d place) excludes root) :
    ShowsSame (barrier d place) (barrier d place') excludes root root' where
  kinds names _ := same.kinds names
  listable names free entered directory := by
    obtain ⟨node, found, kind⟩ := Option.map_eq_some_iff.mp directory
    cases node with
    | file | link => cases kind
    | directory entries access =>
      have listed := listable names entries access found entered free
      have listed' : barrier d place' names = none := (same.listable names directory).mp listed
      rw [listed, listed']

/-- Both targets have the same listing. -/
theorem scanned (same : HoldSame d target target' place place' root root')
    (distinct : d.root.DistinctNames) (scanned : (scan d settings target).result = .ok listing) :
    (scan d settings target').result = .ok listing := by
  obtain ⟨_, given, reached, compiled, walked⟩ := scan_eq_ok.mp scanned
  cases same.reached.symm.trans reached
  refine scan_eq_ok.mpr ⟨place', given, same.reached', compiled, ?_⟩
  rw [walk_eq_ok] at walked ⊢
  have below := Disk.node_throughout distinct same.found
  rw [← visitsFrom_shown same.found same.found' below (Disk.node_throughout distinct same.found')
    (same.shows (listable_of_passed same.found below walked.1))]
  exact walked

/-- A file has the same lines under both targets, as it has the same name. -/
theorem counts (same : HoldSame d target target' place place' root root')
    (leaf : (root.find? e.names).map Node.isDirectory = some false) (nonempty : e.names ≠ [])
    (proper : ∀ part ∈ e.names, ProperName part) (mode : Count.Mode) :
    CountsAlike d d target target' mode e := by
  obtain ⟨rfl, _⟩ := directoryOfTarget_ok same.reached
  obtain ⟨rfl, _⟩ := directoryOfTarget_ok same.reached'
  intro c counted
  obtain ⟨above, name, names⟩ := (List.eq_nil_or_concat e.names).resolve_left nonempty
  rw [List.concat_eq_append] at names
  have plain : '/' ∉ name.toList := (proper name (by simp [names])).2.2
  rw [countEntry] at counted ⊢
  obtain ⟨content, read, counted⟩ := countFile_eq_ok.mp counted
  rw [countFile_read _ _ ((same.contents e.names leaf content).mp read)]
  refine countContent_detect ?_ counted
  rw [names, Language.detect_below _ _ plain, Language.detect_below _ _ plain]

end HoldSame

section Check
variable {s : Surroundings} {request : CheckRequest} {target' : String} {place place' : Path}
  {root root' : Node}

/-- A file of a tree reads under its full path as it stands in the tree. -/
theorem read_below {d : Disk} {target : String} {names : List String} {leaf : Node}
    {content : List UInt8} (current : ∀ part ∈ d.current, ProperName part)
    (reached : directoryOfTarget d (Path.ofText target) = .ok place) (found : d.node place = .ok root)
    (legal : root.LegalNames) (there : root.find? names = some leaf)
    (plain : leaf.isDirectory = false) (unlinked : ∀ target, leaf ≠ .link target)
    (passable : root.passable names = true)
    (short : (place.append names).text.utf8ByteSize < pathLimit) :
    d.read (Path.ofText (place.append names).text) = .ok content ↔ leaf = .file content true := by
  obtain ⟨rfl, clean, other, same, directory⟩ := directoryOfTarget_ok reached
  obtain rfl : root = other := Except.ok.inj (found.symm.trans same)
  have below := legal.names there
  have nonempty : names ≠ [] := by
    rintro rfl
    cases there
    cases plain.symm.trans directory
  have node := Disk.node_append found there unlinked below passable short
  rw [ofText_below current nonempty fun part member => (below part member).proper,
    Disk.read_eq_ok (Disk.hasNul_append clean below), node, Except.ok.injEq]

/-- Two copies of a tree without links hold the same, wherever they are, if their directories can be
searched. -/
theorem HoldSame.of_copies {d : Disk} {target : String}
    (current : ∀ part ∈ d.current, ProperName part)
    (reached : directoryOfTarget d (Path.ofText target) = .ok place)
    (reached' : directoryOfTarget d (Path.ofText target') = .ok place')
    (found : d.node place = .ok root) (found' : d.node place' = .ok root) (legal : root.LegalNames)
    (unlinked : ∀ names target, root.find? names ≠ some (.link target))
    (passable : ∀ names, (root.find? names).isSome → root.passable names = true)
    (short : ∀ p ∈ [place, place'], ∀ names, (root.find? names).isSome →
      (p.append names).text.utf8ByteSize < pathLimit) :
    HoldSame d (Path.ofText target) (Path.ofText target') place place' root root where
  reached := reached
  reached' := reached'
  found := found
  found' := found'
  kinds _ := rfl
  listable names directory := by
    obtain ⟨node, there, kind⟩ := Option.map_eq_some_iff.mp directory
    have present : (root.find? names).isSome := Option.isSome_of_mem there
    obtain ⟨rfl, _⟩ := directoryOfTarget_ok reached
    obtain ⟨rfl, _⟩ := directoryOfTarget_ok reached'
    have here := Disk.node_append found there (by rintro _ rfl; cases kind) (legal.names there)
      (passable names present) (short _ (by simp) names present)
    have here' := Disk.node_append found' there (by rintro _ rfl; cases kind) (legal.names there)
      (passable names present) (short _ (by simp) names present)
    rw [Disk.listingRefused?, Disk.listingRefused?, here, here']
  contents names kind content := by
    obtain ⟨leaf, there, plain⟩ := Option.map_eq_some_iff.mp kind
    have linked (target : String) : leaf ≠ .link target := by
      rintro rfl
      exact unlinked names target there
    have present : (root.find? names).isSome := Option.isSome_of_mem there
    rw [read_below current reached found legal there plain linked (passable names present)
        (short place (by simp) _ present),
      read_below current reached' found' legal there plain linked (passable names present)
        (short place' (by simp) _ present)]

/-- Two names of one place hold the same, whatever links and dots lead there. -/
theorem HoldSame.of_place {d : Disk} {target other : Path}
    (reached : directoryOfTarget d target = .ok place)
    (reached' : directoryOfTarget d other = .ok place) (found : d.node place = .ok root) :
    HoldSame d target other place place root root :=
  ⟨reached, reached', found, found, fun _ => rfl, fun _ _ => Iff.rfl, fun _ _ _ => Iff.rfl⟩

/-- A run that goes through all of its stages has a counterpart at the other target. -/
theorem HoldSame.passed
    (same : HoldSame s.disk (Path.ofText request.target) (Path.ofText target') place place' root root')
    (distinct : s.disk.root.DistinctNames) (proper : s.disk.root.ProperNames)
    (p : Passed s request) : ∃ q : Passed s { request with target := target' },
      q.report = p.report ∧ q.output = p.output := by
  obtain ⟨early, settings, named, loaded, valid, x, writable⟩ := p
  obtain ⟨y, report, user⟩ : ∃ y : Examined s.disk (settings.override request.overrides)
      (Path.ofText target'), y.report = x.report ∧ y.user = x.user := by
    refine x.moved x.read (same.scanned distinct x.scanned) x.chosen x.limited fun e listed => ?_
    obtain ⟨nonempty, parts⟩ := scan_files proper x.scanned listed
    obtain ⟨_, given, reached, _, walked⟩ := scan_eq_ok.mp x.scanned
    cases same.reached.symm.trans reached
    obtain ⟨leaf, _⟩ := walk_kept same.found (Disk.node_throughout distinct same.found) walked listed
    exact same.counts (Option.map_eq_some_iff.mpr leaf) nonempty parts x.mode
  refine ⟨⟨early, settings, named, loaded, valid, y, report ▸ writable⟩, report, ?_⟩
  simp only [Passed.output, Passed.warnings, Passed.report, Passed.locale, report, user]

/-- The verdict does not hang on where the target lies or on how it is named. Two targets that lead to
directories which hold the same have the same output and the same exit code, and the check of one
fails exactly if that of the other one does. -/
theorem check_elsewhere (s : Surroundings) (request : CheckRequest) (target' : String)
    (place place' : Path) (root root' : Node) (order order' : Nat → List Nat)
    (once : ∀ n, order n ~ List.range n) (once' : ∀ n, order' n ~ List.range n)
    (distinct : s.disk.root.DistinctNames) (proper : s.disk.root.ProperNames)
    (same : HoldSame s.disk (Path.ofText request.target) (Path.ofText target') place place' root
      root') :
    let here := check s request order
    let there := check s { request with target := target' } order'
    here.exit = there.exit ∧ here.output = there.output ∧
      (Fails s request ↔ Fails s { request with target := target' }) := by
  intro here there
  have onward := same.passed distinct proper
  have back (q : Passed s { request with target := target' }) : Nonempty (Passed s request) := by
    obtain ⟨p, _⟩ := same.symm.passed distinct proper q
    exact ⟨p⟩
  obtain ⟨exit, output⟩ := check_same once once' onward back
  refine ⟨exit, output, ?_⟩
  rw [fails_iff_not_passed, fails_iff_not_passed]
  constructor
  · exact fun unpassed => ⟨fun q => (back q).elim unpassed.false⟩
  · exact fun unpassed => ⟨fun p => (onward p).elim fun q _ => unpassed.false q⟩

end Check

/-- A directory with one file of one line. -/
def single : Node := .directory [("a.c", .file [0x78, 0x0A] true)] {}

/-- Two copies of the directory, one of them under names that are left out elsewhere, and a link. -/
def copies : Surroundings := configured [("src", single),
  ("out", .directory [("v.1", single)] {}), ("now", .link "src")]

theorem single_find? {names : List String} {node : Node} (found : single.find? names = some node) :
    names = [] ∧ node = single ∨ names = ["a.c"] ∧ node = .file [0x78, 0x0A] true := by
  have flat : ∀ e ∈ single.entries, e.2.isDirectory = false := by
    simp [single, Node.entries, Node.isDirectory]
  cases names with
  | nil => exact .inl ⟨rfl, (Option.some.inj found).symm⟩
  | cons name rest =>
    obtain ⟨e, member, same, rfl⟩ := Node.find?_flat flat (by simp) found
    cases List.mem_singleton.mp member
    exact .inr ⟨same, rfl⟩

theorem single_distinct : single.DistinctNames :=
  .directory (by decide) (by simpa using .file ..)

theorem single_legal : single.LegalNames := by
  have legal : LegalName "a.c" := by decide
  exact .directory (by simpa using legal) (by simpa using .file ..)

/-- The names below both targets are proper, and no directory has a name twice. -/
theorem copies_orderly : copies.disk.root.DistinctNames ∧ copies.disk.root.ProperNames := by
  have proper : ProperName preferredName ∧ ProperName "src" ∧ ProperName "out" ∧
      ProperName "now" ∧ ProperName "v.1" ∧ ProperName "a.c" := by decide
  obtain ⟨preferred, src, out, now, version, file⟩ := proper
  have leaf : single.ProperNames := .directory (by simpa using file) (by simpa using .file ..)
  constructor
  · refine .directory (by decide) ?_
    simp only [List.forall_mem_cons, List.not_mem_nil, false_implies, implies_true, and_true]
    exact ⟨.file .., single_distinct,
      .directory (by decide) (List.forall_mem_singleton.mpr single_distinct), .link _⟩
  · refine .directory ?_ ?_
    · simp only [List.forall_mem_cons, List.not_mem_nil, false_implies, implies_true, and_true]
      exact ⟨preferred, src, out, now⟩
    · simp only [List.forall_mem_cons, List.not_mem_nil, false_implies, implies_true, and_true]
      exact ⟨.file .., leaf,
        .directory (by simpa using version) (List.forall_mem_singleton.mpr leaf), .link _⟩

/-- A copy in a directory that would be left out, under a name with a dot, and a link to the
target. -/
theorem check_elsewhere_copies :
    (check copies { target := "src" } List.range).output =
        (check copies { target := "out/v.1" } List.range).output ∧
      (check copies { target := "src" } List.range).output =
        (check copies { target := "./now/" } List.range).output := by
  have once (n : Nat) : List.range n ~ List.range n := List.Perm.refl _
  obtain ⟨distinct, proper⟩ := copies_orderly
  have reached : directoryOfTarget copies.disk (Path.ofText "src") = .ok ⟨1, ["src"]⟩ := by cbv
  have found : copies.disk.node ⟨1, ["src"]⟩ = .ok single := by cbv
  have copied : HoldSame copies.disk (Path.ofText "src") (Path.ofText "out/v.1") ⟨1, ["src"]⟩
      ⟨1, ["out", "v.1"]⟩ single single := by
    refine .of_copies (by simp [copies, configured]) reached (by cbv) found (by cbv) single_legal ?_ ?_
      ?_
    · intro names target found
      rcases single_find? found with ⟨_, same⟩ | ⟨_, same⟩ <;> cases same
    · intro names present
      obtain ⟨node, found⟩ := Option.isSome_iff_exists.mp present
      rcases single_find? found with ⟨rfl, _⟩ | ⟨rfl, _⟩ <;> rfl
    · intro p place names present
      obtain ⟨node, found⟩ := Option.isSome_iff_exists.mp present
      simp only [List.mem_cons, List.not_mem_nil, or_false] at place
      rcases place with rfl | rfl <;> rcases single_find? found with ⟨rfl, _⟩ | ⟨rfl, _⟩ <;> decide
  have linked : HoldSame copies.disk (Path.ofText "src") (Path.ofText "./now/") ⟨1, ["src"]⟩
      ⟨1, ["src"]⟩ single single := .of_place reached (by cbv) found
  exact ⟨(check_elsewhere copies { target := "src" } "out/v.1" _ _ _ _ List.range List.range once
      once distinct proper copied).2.1,
    (check_elsewhere copies { target := "src" } "./now/" _ _ _ _ List.range List.range once once
      distinct proper linked).2.1⟩

end LineBudget.Command
