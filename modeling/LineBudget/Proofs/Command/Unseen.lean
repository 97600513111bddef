import LineBudget.Proofs.Command.Excluding
import LineBudget.Proofs.Command.Links
import LineBudget.Proofs.Config.Failures
import LineBudget.Proofs.Files.Canonical
import LineBudget.Proofs.Scan.Shown

/-! What a check leaves out, it does not see. Neither the content of an excluded file nor anything
inside an excluded directory has a part in the outcome, the diagnostics included: the walk tells
entries apart by their names and kinds before it looks into them, and only what it keeps is read. -/
namespace LineBudget.Command
open LineBudget.Files LineBudget.Config LineBudget.Scan LineBudget.Count LineBudget.Analysis
open scoped List

/-- Two worlds that differ, for a request, only in what the check leaves out. Its configuration and
ignore file read the same, and its target leads to the same place. There the names and kinds of all
entries are the same in each directory that the walk enters, each directory that it comes to can be
listed in both or in none for the same reason, and each path that is kept reads the same. -/
structure DifferUnseen (s s' : Surroundings) (request : CheckRequest) : Prop where
  language : s.lookupVariable languageVariable = s'.lookupVariable languageVariable
  expected : candidate s request.config = candidate s' request.config
  config : ∀ place, candidate s request.config = .ok place → ReadsSame s.disk s'.disk place
  current : s.disk.current = s'.disk.current
  ignore : ReadsSame s.disk s'.disk (ignorePlace s.disk)
  reached : directoryOfTarget s.disk (Path.ofText request.target) =
    directoryOfTarget s'.disk (Path.ofText request.target)
  distinct : s.disk.root.DistinctNames
  distinct' : s'.disk.root.DistinctNames
  shows : ∀ (p : Prepared s request) (p' : Prepared s' request),
    ShowsSame (barrier s.disk p.place) (barrier s'.disk p'.place) (exclusion p.given) p.root p'.root
  reads : ∀ (p : Prepared s request) (names : List String), p.Keeps names →
    s.disk.read (Path.ofText (p.place.append names).text) =
      s'.disk.read (Path.ofText (p.place.append names).text)

section Stages
variable {α β : Type} {first : Stage α} {next next' : α → Stage β} {d d' : Disk} {place : Path}
  {listing : Listing} {s s' : Surroundings} {given : Option String}

theorem Stage.andThen_congr (same : ∀ value, first.result = .ok value → next value = next' value) :
    first.andThen next = first.andThen next' := by
  rw [Stage.andThen, Stage.andThen]
  cases ended : first.result with
  | error setback => rfl
  | ok value => simp only [same value ended]

/-- A configuration is loaded from what its file reads as. -/
theorem load_congr (expected : candidate s given = candidate s' given)
    (config : ∀ place, candidate s given = .ok place → ReadsSame s.disk s'.disk place) :
    load s given = load s' given := by
  have located : locate s given = locate s' given := by
    rw [locate_eq, locate_eq, ← expected]
    cases found : candidate s given with
    | error failure => rfl
    | ok place => simp only [Except.mapError, bind, Except.bind, (config place found).present]
  rw [load, load, ← located]
  cases found : locate s given with
  | error e => rfl
  | ok place =>
    have content := (config place (locate_eq_ok.mp found).1).content
    simp only [readSettings, content]

/-- Files are counted from what their paths read as. -/
theorem countListing_congr (mode : Count.Mode) (order : List Nat)
    (reads : ∀ e ∈ listing.files, d.read (Path.ofText (place.append e.names).text) =
      d'.read (Path.ofText (place.append e.names).text)) :
    countListing d place listing mode order = countListing d' place listing mode order := by
  have counted (path : String) (member : path ∈ listing.files.map fun e =>
      (place.append e.names).text) :
      countFile d path mode lineLimit = countFile d' path mode lineLimit := by
    obtain ⟨e, listed, rfl⟩ := List.mem_map.mp member
    rw [countFile, countFile, reads e listed]
  rw [countListing, countListing]
  dsimp only
  rw [countAll_congr _ _ _ counted]

end Stages

namespace DifferUnseen
variable {s s' : Surroundings} {request : CheckRequest} {settings : Settings}
  {early : Message.Locale} {given : Ignore.Rules} {place : Path}

theorem load (unseen : DifferUnseen s s' request) : load s request.config = load s' request.config :=
  load_congr unseen.expected unseen.config

theorem languageName (unseen : DifferUnseen s s' request) :
    languageName s request.language = languageName s' request.language := by
  rw [Command.languageName, Command.languageName, chosenLanguage?, chosenLanguage?,
    unseen.language]

theorem finalLocale (unseen : DifferUnseen s s' request) :
    finalLocale s request.language early settings =
      finalLocale s' request.language early settings := by
  rw [Command.finalLocale, Command.finalLocale, chosenLanguage?, chosenLanguage?, unseen.language]

/-- Where one run comes as far as the walk, both do, at the same place with the same patterns. -/
theorem prepared (unseen : DifferUnseen s s' request)
    (named : Message.Locale.ofName (Command.languageName s request.language) = .ok early)
    (loaded : (Config.load s request.config).result = .ok settings)
    (valid : (settings.override request.overrides).validate = .ok ())
    (reached : directoryOfTarget s.disk (Path.ofText request.target) = .ok place)
    (compiled : rules s.disk (settings.override request.overrides) = .ok given) :
    ∃ (p : Prepared s request) (p' : Prepared s' request),
      (p.place = place ∧ p.given = given) ∧ p'.place = place := by
  have reached' := unseen.reached ▸ reached
  obtain ⟨_, _, root, found, _⟩ := directoryOfTarget_ok reached
  obtain ⟨_, _, root', found', _⟩ := directoryOfTarget_ok reached'
  have compiled' := compiled
  rw [rules_congr unseen.current unseen.ignore] at compiled'
  exact ⟨⟨early, settings, given, place, root, named, loaded, valid, compiled, reached, found⟩,
    ⟨early, settings, given, place, root', unseen.languageName ▸ named, unseen.load ▸ loaded, valid,
      compiled', reached', found'⟩, ⟨rfl, rfl⟩, rfl⟩

/-- Both walks come by the same, notes and failures included. -/
theorem walk (unseen : DifferUnseen s s' request) (p : Prepared s request)
    (p' : Prepared s' request) (same : p'.place = p.place) :
    walk s.disk p.place (exclusion p.given) = walk s'.disk p.place (exclusion p.given) := by
  have found' := p'.found
  rw [same] at found'
  have shows := unseen.shows p p'
  rw [same] at shows
  simp only [Scan.walk, visitsFrom_shown p.found found' (Disk.node_throughout unseen.distinct p.found)
    (Disk.node_throughout unseen.distinct' p'.found) shows]

theorem examine (unseen : DifferUnseen s s' request)
    (named : Message.Locale.ofName (Command.languageName s request.language) = .ok early)
    (loaded : (Config.load s request.config).result = .ok settings)
    (valid : (settings.override request.overrides).validate = .ok ()) (order : Nat → List Nat) :
    examine s.disk (settings.override request.overrides) (Path.ofText request.target) order =
      examine s'.disk (settings.override request.overrides) (Path.ofText request.target) order := by
  have scanned : scan s.disk (settings.override request.overrides) (Path.ofText request.target) =
      scan s'.disk (settings.override request.overrides) (Path.ofText request.target) := by
    refine scan_congr unseen.current unseen.ignore unseen.reached _ fun place given reached compiled => ?_
    obtain ⟨p, p', ⟨rfl, rfl⟩, same⟩ := unseen.prepared named loaded valid reached compiled
    exact unseen.walk p p' same
  simp only [Command.examine, ← userPatterns_congr unseen.current unseen.ignore, ← scanned]
  -- The files are counted where the target was found, and only those that the scan has listed.
  refine Stage.andThen_congr fun user _ => Stage.andThen_congr fun listing listed =>
    Stage.andThen_congr fun mode _ => ?_
  obtain ⟨place, given, reached, compiled, walked⟩ := scan_eq_ok.mp (mapError_eq_ok.mp listed)
  obtain ⟨p, p', ⟨rfl, rfl⟩, _⟩ := unseen.prepared named loaded valid reached compiled
  have here := (directoryOfTarget_ok reached).1
  have here' := (directoryOfTarget_ok (unseen.reached ▸ reached)).1
  rw [← here, ← here']
  refine congrArg (Stage.andThen · _) (countListing_congr mode _ fun e member => ?_)
  exact unseen.reads p e.names
    (walk_kept p.found (Disk.node_throughout unseen.distinct p.found) walked member)

end DifferUnseen

/-- What is excluded is invisible. Two worlds that differ only in the content and readability of
excluded files and in what is inside excluded directories lead to the same outcome: the same output,
the same diagnostics, with notes or without, and the same exit code, for files that finish in any
order. Output and exit code are the same even if the files finish in different orders. -/
theorem check_unseen (s s' : Surroundings) (request : CheckRequest)
    (unseen : DifferUnseen s s' request) :
    (∀ order, check s request order = check s' request order) ∧
    ∀ order order', (∀ n, order n ~ List.range n) → (∀ n, order' n ~ List.range n) →
      (check s request order).exit = (check s' request order').exit ∧
      (check s request order).output = (check s' request order').output := by
  have same (order : Nat → List Nat) : check s request order = check s' request order := by
    simp only [check, ← unseen.languageName, ← unseen.load]
    cases named : Message.Locale.ofName (languageName s request.language) with
    | error unsupported => rfl
    | ok early =>
      cases loaded : (load s request.config).result with
      | error e => rfl
      | ok settings =>
        simp only [checkWith, Settings.apply, ← unseen.finalLocale]
        cases checked : (settings.override request.overrides).validate with
        | error violations => rfl
        | ok => simp only [unseen.examine named loaded checked order]
  refine ⟨same, fun order order' once once' => ?_⟩
  rw [← same order']
  exact check_same once once' (fun p => ⟨p, rfl, rfl⟩) fun q => ⟨q⟩

/-- A target with a file of one line and something named `b`. -/
def besideB (hidden : Node) : Surroundings :=
  configured [("src", .directory (setEntry "b" hidden [("a", .file [0x78, 0x0A] true)]) {})]

/-- A check that leaves out what is named `b`. -/
def withoutB : CheckRequest := {
  target := "src"
  overrides := { ignore := some ["b"], noDefaultExcludes := true } }

/-- What the pattern `b` is read as. -/
def onlyB : Ignore.Rules := ⟨[⟨false, .anchored [.leadingDirectories, .literal 'b', .entryEnd]⟩]⟩

section Hidden
variable {hidden hidden' : Node}

theorem besideB_distinct (distinct : hidden.DistinctNames) :
    (besideB hidden).disk.root.DistinctNames := by
  have names : [preferredName, "src"].Nodup := by decide
  have inner : ((setEntry "b" hidden [("a", .file [0x78, 0x0A] true)]).map (·.1)).Nodup := by
    rw [setEntry_names]
    decide
  refine .directory names ?_
  simp only [List.forall_mem_cons, List.not_mem_nil, false_implies, implies_true, and_true]
  refine ⟨.file .., .directory inner fun e member => ?_⟩
  rcases mem_setEntry member with rfl | member
  · exact distinct
  · cases List.mem_singleton.mp member
    exact .file ..

theorem besideB_reached (hidden : Node) :
    directoryOfTarget (besideB hidden).disk (Path.ofText "src") = .ok ⟨1, ["src"]⟩ := by
  have path : Path.ofText "src" = ⟨0, ["src"]⟩ := by cbv
  have canonical : (besideB hidden).disk.canonical ⟨0, ["src"]⟩ = ["src"] :=
    canonical_single rfl (by decide) (by cbv)
  rw [path, directoryOfTarget, canonical]
  cbv

theorem besideB_found (hidden : Node) : (besideB hidden).disk.node ⟨1, ["src"]⟩ =
    .ok (.directory (setEntry "b" hidden [("a", .file [0x78, 0x0A] true)]) {}) := by
  cbv

theorem besideB_listed (hidden : Node) : barrier (besideB hidden).disk ⟨1, ["src"]⟩ [] = none := by
  have here : (besideB hidden).disk.node ((⟨1, ["src"]⟩ : Path).append []) =
    .ok (.directory (setEntry "b" hidden [("a", .file [0x78, 0x0A] true)]) {}) := besideB_found hidden
  rw [barrier, Disk.listingRefused?, here]
  rfl

theorem besideB_unignored (hidden : Node) :
    (besideB hidden).disk.node (ignorePlace (besideB hidden).disk) = .error .notFound :=
  configured_unignored rfl

theorem besideB_compiled (hidden : Node) : rules (besideB hidden).disk
    (({} : Settings).override withoutB.overrides) = .ok onlyB := by
  have read : Ignore.Rules.ofTexts ["b"] = .ok onlyB := by cbv
  refine (rules_listed rfl (besideB_unignored hidden) rfl).trans ?_
  exact congrArg (Except.mapError _) read

theorem besideB_candidate (hidden : Node) :
    candidate (besideB hidden) none = .ok (Path.ofText preferredName) :=
  (usualPlace_preferred (preferred_node rfl rfl (configured_entry _))).1

/-- The target is walked without what is named `b`. -/
theorem besideB_prepared (p : Prepared (besideB hidden) withoutB) :
    p.place = ⟨1, ["src"]⟩ ∧ p.given = onlyB ∧
      p.root = .directory (setEntry "b" hidden [("a", .file [0x78, 0x0A] true)]) {} := by
  have place := Except.ok.inj (p.reached.symm.trans (besideB_reached hidden))
  have settings := Except.ok.inj (p.loaded.symm.trans (configured_load _))
  have compiled := p.compiled
  rw [settings, besideB_compiled] at compiled
  have found := p.found
  rw [place, besideB_found] at found
  exact ⟨place, (Except.ok.inj compiled).symm, (Except.ok.inj found).symm⟩

/-- Only the file is kept. -/
theorem besideB_kept {names : List String} (directory : hidden.isDirectory = true)
    (kept : Kept (exclusion onlyB)
      (.directory (setEntry "b" hidden [("a", .file [0x78, 0x0A] true)]) {}) names) :
    names = ["a"] := by
  obtain ⟨⟨leaf, found, plain⟩, passed, free⟩ := kept
  have left : exclusion onlyB ["b"] true = true := by cbv
  cases names with
  | nil =>
    cases found
    cases plain
  | cons name rest =>
    rw [Node.find?_cons, Node.entries, lookup_setEntry] at found
    split at found
    case isTrue same =>
      subst same
      cases rest with
      | nil =>
        cases found
        cases directory.symm.trans plain
      | cons next rest => cases left.symm.trans ((open_cons.mp free).1 (by simp))
    case isFalse =>
      obtain ⟨node, here, there⟩ := Option.bind_eq_some_iff.mp found
      cases List.mem_singleton.mp (mem_of_lookup here)
      cases rest with
      | nil => rfl
      | cons next rest => cases there

/-- Whatever directory is hidden under the name. -/
theorem besideB_unseen (directory : hidden.isDirectory = true) (distinct : hidden.DistinctNames)
    (directory' : hidden'.isDirectory = true) (distinct' : hidden'.DistinctNames) :
    DifferUnseen (besideB hidden) (besideB hidden') withoutB where
  language := rfl
  expected := (besideB_candidate hidden).trans (besideB_candidate hidden').symm
  config place expected := by
    obtain rfl := Except.ok.inj ((besideB_candidate hidden).symm.trans expected)
    refine .of_node ?_
    rw [preferred_node rfl rfl (configured_entry _), preferred_node rfl rfl (configured_entry _)]
  current := rfl
  ignore := .of_node ((besideB_unignored hidden).trans (besideB_unignored hidden').symm)
  reached := (besideB_reached hidden).trans (besideB_reached hidden').symm
  distinct := besideB_distinct distinct
  distinct' := besideB_distinct distinct'
  shows p p' := by
    obtain ⟨place, given, root⟩ := besideB_prepared p
    obtain ⟨place', _, root'⟩ := besideB_prepared p'
    rw [place, place', given, root, root']
    exact .replaced (by cbv) directory directory' (by simp [Node.isDirectory])
      ((besideB_listed hidden).trans (besideB_listed hidden').symm)
  reads p names kept := by
    obtain ⟨place, given, root⟩ := besideB_prepared p
    rw [Prepared.Keeps, given, root] at kept
    obtain rfl := besideB_kept directory kept
    rw [place]
    cbv

end Hidden

/-- A hidden directory that cannot be listed, and one with a file that cannot be read. -/
theorem check_unseen_locked :
    check (besideB (.directory [] { listable := false })) withoutB List.range =
      check (besideB (.directory [("c", .file [] false)] {})) withoutB List.range := by
  have distinct : (Node.directory [] { listable := false }).DistinctNames :=
    .directory (by decide) (by simp)
  have distinct' : (Node.directory [("c", .file [] false)] {}).DistinctNames :=
    .directory (by decide) (by simpa using .file ..)
  exact (check_unseen _ _ withoutB (besideB_unseen rfl distinct rfl distinct')).1 List.range

end LineBudget.Command
