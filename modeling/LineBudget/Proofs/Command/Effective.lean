import LineBudget.Proofs.Command.Counterpart
import LineBudget.Proofs.Config.Load
import LineBudget.Proofs.Scan.Target

/-! What a check depends on: of the configuration and the flags only the settings that come of them,
and of the files only those that it reads. -/
namespace LineBudget.Command
open LineBudget.Files LineBudget.Config LineBudget.Scan LineBudget.Count LineBudget.Analysis
open scoped List

/-- The place where a check looks for an ignore file. -/
def ignorePlace (d : Disk) : Path := (currentDirectory d).append [ignoreName]

/-- Disks with the same tree at a target, where below it the same directories can be listed and the
same files are found. -/
structure SameTarget (d d' : Disk) (target : Path) : Prop where
  canonical : d.canonical target = d'.canonical target
  tree : d.node (.ofLocation (d.canonical target)) = d'.node (.ofLocation (d.canonical target))
  listed : ∀ names, d.listingRefused? ((Path.ofLocation (d.canonical target)).append names) =
    d'.listingRefused? ((Path.ofLocation (d.canonical target)).append names)
  files : ∀ names, d.node (.ofText ((Path.ofLocation (d.canonical target)).append names).text) =
    d'.node (.ofText ((Path.ofLocation (d.canonical target)).append names).text)

/-- What stands at a path is told apart neither by a look at it nor by reading it. -/
structure ReadsSame (d d' : Disk) (p : Path) : Prop where
  present : d.isFile p = d'.isFile p
  content : d.read p = d'.read p

/-- Two worlds that look the same to a check of a target with some settings, once the configuration is
loaded: in the language that is asked for, in the ignore file, in what is come by at the target, and
in the lines that count of each listed file. A listed file itself need not be the same, so that it
can be the configuration. -/
structure Alike (s s' : Surroundings) (settings : Settings) (target : Path) : Prop where
  language : s.lookupVariable languageVariable = s'.lookupVariable languageVariable
  current : s.disk.current = s'.disk.current
  ignore : ReadsSame s.disk s'.disk (ignorePlace s.disk)
  reached : directoryOfTarget s.disk target = directoryOfTarget s'.disk target
  walked : ∀ place, directoryOfTarget s.disk target = .ok place →
    walk s.disk place = walk s'.disk place
  counted : ∀ listing mode, (scan s.disk settings target).result = .ok listing →
    settings.mode = .ok mode → ∀ e ∈ listing.files,
      countedLines? s.disk target mode e = countedLines? s'.disk target mode e

section SameTarget
variable {d d' : Disk} {p target : Path}

theorem isFile_congr (same : d.node p = d'.node p) : d.isFile p = d'.isFile p := by
  rw [Disk.isFile, Disk.isFile, Disk.test, Disk.test, same]

theorem isDirectory_congr (same : d.node p = d'.node p) : d.isDirectory p = d'.isDirectory p := by
  rw [Disk.isDirectory, Disk.isDirectory, Disk.test, Disk.test, same]

theorem read_congr (same : d.node p = d'.node p) : d.read p = d'.read p := by
  rw [Disk.read, Disk.read, same]

theorem ReadsSame.of_node (same : d.node p = d'.node p) : ReadsSame d d' p :=
  ⟨isFile_congr same, read_congr same⟩

theorem userPatterns_congr (current : d.current = d'.current)
    (ignore : ReadsSame d d' (ignorePlace d)) (settings : Settings) :
    settings.userPatterns d (currentDirectory d) =
      settings.userPatterns d' (currentDirectory d') := by
  have here : currentDirectory d' = currentDirectory d := by
    rw [currentDirectory, currentDirectory, current]
  obtain ⟨present, content⟩ := ignore
  rw [ignorePlace] at present content
  rw [here, Settings.userPatterns, Settings.userPatterns, present]
  simp only [readIgnoreFile, content]

theorem rules_congr (current : d.current = d'.current) (ignore : ReadsSame d d' (ignorePlace d))
    (settings : Settings) : rules d settings = rules d' settings := by
  simp only [rules, Settings.excludePatterns, userPatterns_congr current ignore settings]

theorem scan_congr (current : d.current = d'.current) (ignore : ReadsSame d d' (ignorePlace d))
    (reached : directoryOfTarget d target = directoryOfTarget d' target) (settings : Settings)
    (walked : ∀ place given, directoryOfTarget d target = .ok place →
      rules d settings = .ok given → walk d place (exclusion given) = walk d' place (exclusion given)) :
    scan d settings target = scan d' settings target := by
  simp only [scan, ← reached, ← rules_congr current ignore]
  cases found : directoryOfTarget d target with
  | error failure => rfl
  | ok place =>
    cases compiled : rules d settings with
    | error failure => rfl
    | ok given => exact walked place given found compiled

theorem walk_congr (same : d.node p = d'.node p)
    (listed : ∀ names, d.listingRefused? (p.append names) = d'.listingRefused? (p.append names)) :
    walk d p = walk d' p := by
  have barriers : barrier d p = barrier d' p := funext listed
  funext excludes
  rw [walk, walk, visitsFrom, visitsFrom, same, barriers]

namespace SameTarget

theorem refl (d : Disk) (target : Path) : SameTarget d d target :=
  ⟨rfl, rfl, fun _ => rfl, fun _ => rfl⟩

theorem symm (same : SameTarget d d' target) : SameTarget d' d target := by
  obtain ⟨canonical, tree, listed, files⟩ := same
  constructor
  · exact canonical.symm
  · rw [← canonical]
    exact tree.symm
  · intro names
    rw [← canonical]
    exact (listed names).symm
  · intro names
    rw [← canonical]
    exact (files names).symm

theorem reached (same : SameTarget d d' target) :
    directoryOfTarget d target = directoryOfTarget d' target := by
  simp only [directoryOfTarget, ← same.canonical, same.tree, isDirectory_congr same.tree]

theorem walk (same : SameTarget d d' target) {place : Path}
    (found : directoryOfTarget d target = .ok place) : walk d place = walk d' place := by
  obtain ⟨rfl, _⟩ := directoryOfTarget_ok found
  exact walk_congr same.tree same.listed

theorem countEntry (same : SameTarget d d' target) (mode : Count.Mode) :
    countEntry d target mode = countEntry d' target mode := by
  funext e
  rw [Command.countEntry, Command.countEntry, ← same.canonical, countFile, countFile,
    read_congr (same.files e.names)]

end SameTarget
end SameTarget

namespace Alike
variable {s s' : Surroundings} {settings : Settings} {target : Path}

/-- Worlds with the same tree and the same files at a target are alike under any settings. -/
theorem of_sameTarget (same : SameTarget s.disk s'.disk target)
    (language : s.lookupVariable languageVariable = s'.lookupVariable languageVariable)
    (current : s.disk.current = s'.disk.current)
    (ignore : s.disk.node (ignorePlace s.disk) = s'.disk.node (ignorePlace s.disk)) :
    Alike s s' settings target where
  language := language
  current := current
  ignore := .of_node ignore
  reached := same.reached
  walked _ found := same.walk found
  counted _ mode _ _ e _ := by rw [countedLines?, countedLines?, same.countEntry]

theorem refl (s : Surroundings) (settings : Settings) (target : Path) :
    Alike s s settings target :=
  .of_sameTarget (.refl ..) rfl rfl rfl

theorem scan (alike : Alike s s' settings target) :
    scan s.disk settings target = scan s'.disk settings target := by
  apply scan_congr alike.current alike.ignore alike.reached
  intro place given found _
  rw [alike.walked place found]

theorem symm (alike : Alike s s' settings target) : Alike s' s settings target where
  language := alike.language.symm
  current := alike.current.symm
  ignore := by
    have place : ignorePlace s'.disk = ignorePlace s.disk := by
      rw [ignorePlace, ignorePlace, currentDirectory, currentDirectory, alike.current]
    rw [place]
    exact ⟨alike.ignore.present.symm, alike.ignore.content.symm⟩
  reached := alike.reached.symm
  walked := by
    rw [← alike.reached]
    intro place found
    exact (alike.walked place found).symm
  counted := by
    rw [← alike.scan]
    intro listing mode scanned chosen e listed
    exact (alike.counted listing mode scanned chosen e listed).symm

/-- What is examined in one of the worlds is examined in the other one. -/
theorem examined (alike : Alike s s' settings target) {settings' : Settings} {target' : Path}
    (x : Examined s.disk settings target) (same : settings = settings') (there : target = target') :
    ∃ y : Examined s'.disk settings' target', y.report = x.report ∧ y.user = x.user := by
  subst same there
  apply x.moved
  · rw [← userPatterns_congr alike.current alike.ignore]
    exact x.read
  · rw [← alike.scan]
    exact x.scanned
  · exact x.chosen
  · exact x.limited
  · intro e listed
    exact .of_lines (alike.counted x.listing x.mode x.scanned x.chosen e listed)

end Alike

/-- The language of the messages is the same where the same language is asked for. -/
theorem finalLocale_congr {s s' : Surroundings} {c c' : Settings}
    (language : s.lookupVariable languageVariable = s'.lookupVariable languageVariable)
    (given : Option String) (early : Message.Locale) (same : c.language = c'.language) :
    finalLocale s given early c = finalLocale s' given early c' := by
  rw [finalLocale, finalLocale, chosenLanguage?, chosenLanguage?, language, same]

section Check
variable {s s' : Surroundings} {request request' : CheckRequest} {c c' : Settings}

/-- Two runs that differ in their configuration and in their flags, but not in the settings that
come of them. -/
structure Agree (s s' : Surroundings) (request request' : CheckRequest) : Prop where
  target : request.target = request'.target
  format : request.format = request'.format
  language : request.language = request'.language
  settings : ∃ c c', (load s request.config).result = .ok c ∧
    (load s' request'.config).result = .ok c' ∧
    c.override request.overrides = c'.override request'.overrides ∧
    Alike s s' (c.override request.overrides) (Path.ofText request.target)

namespace Agree

theorem symm (agree : Agree s s' request request') : Agree s' s request' request := by
  obtain ⟨target, format, language, c, c', loaded, loaded', same, alike⟩ := agree
  refine ⟨target.symm, format.symm, language.symm, c', c, loaded', loaded, same.symm, ?_⟩
  rw [← target, ← same]
  exact alike.symm

/-- A run that goes through all of its stages has a counterpart with the same report and output. -/
theorem passed (agree : Agree s s' request request') (p : Passed s request) :
    ∃ q : Passed s' request', q.report = p.report ∧ q.output = p.output := by
  obtain ⟨target, format, language, c, c', loaded, loaded', same, alike⟩ := agree
  obtain ⟨early, settings, named, found, valid, x, writable⟩ := p
  obtain rfl : c = settings := Except.ok.inj (loaded.symm.trans found)
  have spoken : (c.override request.overrides).language = (c'.override request'.overrides).language :=
    congrArg _ same
  have locale : finalLocale s request'.language early c = finalLocale s' request'.language early c' :=
    finalLocale_congr alike.language request'.language early spoken
  have asked : languageName s request.language = languageName s' request'.language := by
    rw [languageName, languageName, chosenLanguage?, chosenLanguage?, alike.language, language]
  obtain ⟨y, report, user⟩ := alike.examined x same (congrArg Path.ofText target)
  have written : Report.isWritable request'.format y.report = true := by
    rw [← format, report]
    exact writable
  refine ⟨⟨early, c', asked ▸ named, loaded', same ▸ valid, y, written⟩, report, ?_⟩
  simp only [Passed.output, Passed.warnings, Passed.report, Passed.locale, format, language, report, user, locale]

/-- The settings alone decide how a run ends and what it writes. -/
theorem check (agree : Agree s s' request request') {order order' : Nat → List Nat}
    (once : ∀ n, order n ~ List.range n) (once' : ∀ n, order' n ~ List.range n) :
    (check s request order).exit = (check s' request' order').exit ∧
      (check s request order).output = (check s' request' order').output := by
  refine check_same once once' agree.passed fun q => ?_
  obtain ⟨p, _⟩ := agree.symm.passed q
  exact ⟨p⟩

end Agree

end Check
end LineBudget.Command
