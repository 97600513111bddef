import LineBudget.Proofs.Command.Effective
import LineBudget.Proofs.Config.Failures
import LineBudget.Proofs.Config.Overriding
import LineBudget.Proofs.Count.Content
import LineBudget.Proofs.Report.Lossless

/-! Flags against an edited configuration: both lead to the same settings, and so to the same
check. -/
namespace LineBudget.Command
open LineBudget.Files LineBudget.Config LineBudget.Scan LineBudget.Count LineBudget.Analysis
open scoped List

/-- A setting has the value of its flag where one was given, and else the configured one. -/
def Put {α : Type} (flag : Option α) (old new : α) : Prop :=
  (∀ value, flag = some value → new = value) ∧ (flag = none → new = old)

/-- A configuration with the values of the given flags written into it. -/
structure Edited (c : Settings) (flags : Overrides) (c' : Settings) : Prop where
  file : Put flags.maxFileLines c.rules.maxFileLines c'.rules.maxFileLines
  directory : Put flags.maxDirectoryLines c.rules.maxDirectoryLines c'.rules.maxDirectoryLines
  percentage : Put flags.warningThreshold c.rules.warningThreshold c'.rules.warningThreshold
  mode : Put flags.countMode c.countMode c'.countMode
  ignore : Put flags.ignore c.ignore c'.ignore
  unset : flags.noDefaultExcludes = true → c'.defaultExcludes = false
  kept : flags.noDefaultExcludes = false → c'.defaultExcludes = c.defaultExcludes
  language : c'.language = c.language

variable {α : Type} {flag : Option α} {old new : α} {c c' : Settings} {flags : Overrides}

theorem put_iff : Put flag old new ↔ new = flag.getD old := by
  cases flag <;> simp [Put]

/-- Overriding is editing. -/
theorem edited_iff : Edited c flags c' ↔ c' = c.override flags := by
  constructor
  · intro edited
    have defaults : c'.defaultExcludes = (c.defaultExcludes && !flags.noDefaultExcludes) := by
      cases given : flags.noDefaultExcludes with
      | false => simp [edited.kept given]
      | true => simp [edited.unset given]
    obtain ⟨⟨_, _, _⟩, _, _, _, _⟩ := c'
    simp only [Settings.override, ← put_iff.mp edited.file, ← put_iff.mp edited.directory,
      ← put_iff.mp edited.percentage, ← put_iff.mp edited.mode, ← put_iff.mp edited.ignore,
      ← defaults, ← edited.language]
  · rintro rfl
    exact ⟨put_iff.mpr rfl, put_iff.mpr rfl, put_iff.mpr rfl, put_iff.mpr rfl, put_iff.mpr rfl,
      fun given => by simp [Settings.override, given],
      fun given => by simp [Settings.override, given], rfl⟩

theorem validate_error {settings : Settings} (invalid : ¬ settings.Valid) :
    settings.validate = .error settings.violations :=
  validate_eq_error.mpr ⟨fun none => invalid (violations_eq_nil.mp none), rfl⟩

theorem phrase_plain (locale : Message.Locale) (key : String) :
    Message.phrase locale key [] = .ok (Message.say locale key []) := by
  rw [Message.say, Message.phrase]
  cases (Message.catalogue locale).lookup key <;> rfl

/-- Violations are told by the messages of their codes. -/
theorem problemText_violations (locale : Message.Locale) (all : List Violation) :
    problemText locale (.ofViolations all) =
      "; ".intercalate (all.map fun v => Message.say locale v.code []) := by
  have texts : ((all.map fun v => (v.code, v.message)).mapM fun entry =>
      Message.phrase locale entry.1 []) = .ok (all.map fun v => Message.say locale v.code []) := by
    simp only [phrase_plain]
    refine List.mapM_pure.trans ?_
    rw [List.map_map]
    rfl
  have told : Problem.localText locale (.ofViolations all) =
      .ok ("; ".intercalate (all.map fun v => Message.say locale v.code [])) := by
    change (((all.map fun v => (v.code, v.message)).mapM fun entry =>
      Message.phrase locale entry.1 []) >>= fun found => .ok ("; ".intercalate found)) = _
    rw [texts]
    rfl
  rw [problemText, Problem.ofViolations, Problem.kind]
  rw [Problem.ofViolations] at told
  simp only [told]

section Check
variable {s s' : Surroundings} {request : CheckRequest} {order order' : Nat → List Nat}

/-- A check with settings that are not valid tells all their violations, and nothing else. -/
theorem check_invalid (once : ∀ n, order n ~ List.range n)
    (loaded : (load s request.config).result = .ok c)
    (invalid : ¬ (c.override request.overrides).Valid) :
    (check s request order).exit = 2 ∧ (check s request order).output = "" ∧
      ∀ early, Message.Locale.ofName (languageName s request.language) = .ok early →
        (check s request order).diagnostics =
          (({ verbose := request.verbose } : Diagnostics).notes (load s request.config).notes).error
            ("; ".intercalate ((c.override request.overrides).violations.map fun v =>
              Message.say (finalLocale s request.language early (c.override request.overrides))
                v.code [])) := by
  have failed := validate_error invalid
  obtain ⟨exit, output⟩ := (Fails.validate loaded failed).ends once
  refine ⟨exit, output, ?_⟩
  intro early named
  simp only [check, named, loaded, checkWith, Settings.apply, failed]
  simp only [setBack, problemText_violations]
  rfl

/-- Without the notes on loading, nothing tells apart two configurations that lead to the same
settings. -/
theorem check_overridden {config : Option String} {other : Settings}
    (loaded : (load s request.config).result = .ok c)
    (found : (load s config).result = .ok other)
    (same : other.override request.overrides = c.override request.overrides)
    (quiet : request.verbose = false) :
    check s { request with config } order = check s request order := by
  have spoken : (other.override request.overrides).language =
      (c.override request.overrides).language := congrArg _ same
  have silent (texts : List String) : ({ verbose := request.verbose } : Diagnostics).notes texts =
      { verbose := request.verbose } := notes_quiet quiet texts
  cases named : Message.Locale.ofName (languageName s request.language) with
  | error unsupported => simp only [check, named]
  | ok early =>
    have locale : finalLocale s request.language early other =
        finalLocale s request.language early c := finalLocale_congr rfl _ _ spoken
    simp only [check, named, loaded, found, silent, checkWith, Settings.apply, same, locale]

end Check

/-- Flags are as good as an edited configuration, wherever it lies, as long as the edit does not show
in the target: what a scan comes by is the same, and so are the lines that count of each listed file.
Where the edited settings are valid, a check with flags writes and ends as a check without flags does
on any configuration that loads to them; where they are not, the check fails with exactly the
violations of the edited settings. Configurations that differ only in what the flags replace lead to
the same run. -/
theorem check_flags (s s' : Surroundings) (request : CheckRequest) (c c' : Settings)
    (order order' : Nat → List Nat) (once : ∀ n, order n ~ List.range n)
    (once' : ∀ n, order' n ~ List.range n) (loaded : (load s request.config).result = .ok c)
    (edited : Edited c request.overrides c') :
    let ended := check s request order
    (∀ config, (load s' config).result = .ok c' → Alike s s' c' (Path.ofText request.target) →
      let plain := check s' { request with config, overrides := {} } order'
      plain.exit = ended.exit ∧ plain.output = ended.output) ∧
    (¬ c'.Valid → ended.exit = 2 ∧ ended.output = "" ∧
      ∀ early, Message.Locale.ofName (languageName s request.language) = .ok early →
        ended.diagnostics =
          (({ verbose := request.verbose } : Diagnostics).notes (load s request.config).notes).error
            ("; ".intercalate (c'.violations.map fun v =>
              Message.say (finalLocale s request.language early c') v.code []))) ∧
    (∀ config other, (load s' config).result = .ok other → Edited other request.overrides c' →
      Alike s s' c' (Path.ofText request.target) →
      let again := check s' { request with config } order'
      again.exit = ended.exit ∧ again.output = ended.output) ∧
    ∀ config other, (load s config).result = .ok other → Edited other request.overrides c' →
      request.verbose = false → check s { request with config } order = ended := by
  intro ended
  obtain rfl := edited_iff.mp edited
  refine ⟨?_, ?_, ?_, ?_⟩
  · intro config found alike
    have agree : Agree s s' request { request with config, overrides := {} } :=
      ⟨rfl, rfl, rfl, c, _, loaded, found, (override_none _).symm, alike⟩
    obtain ⟨exit, output⟩ := agree.check once once'
    exact ⟨exit.symm, output.symm⟩
  · intro invalid
    exact check_invalid once loaded invalid
  · intro config other found same alike
    have agree : Agree s s' request { request with config } :=
      ⟨rfl, rfl, rfl, c, other, loaded, found, edited_iff.mp same, alike⟩
    obtain ⟨exit, output⟩ := agree.check once once'
    exact ⟨exit.symm, output.symm⟩
  · intro config other found same quiet
    exact check_overridden loaded found (edited_iff.mp same).symm quiet

/-- A configuration that gives a mode and no rule. -/
def codeOnlyRules : String := "\"rules\": \x7b\x7d\n\"count_mode\": \"code_only\""

def codeOnlySettings : Settings := { countMode := .text "code_only" }

theorem settingsOfContent_codeOnly :
    settingsOfContent codeOnlyRules.toUTF8.toList = .ok codeOnlySettings := by
  have decoded : Text.Utf8.decode codeOnlyRules.toUTF8.toList = .ok codeOnlyRules.toList := by cbv
  have newlines : Text.unifyNewlines codeOnlyRules.toList = codeOnlyRules.toList := by cbv
  have tokens : Yaml.Token.ofText codeOnlyRules.toList = ([.mappingStart, .key,
      .scalar false "rules", .value, .flowMappingStart, .flowMappingEnd, .key,
      .scalar false "count_mode", .value, .scalar false "code_only", .blockEnd, .streamEnd],
      none) := by cbv
  have node : Yaml.Node.ofText? codeOnlyRules.toList = .ok (some (.mapping none .map
      [(.scalar none .str "rules", .mapping none .map []),
       (.scalar none .str "count_mode", .scalar none .str "code_only")])) := by
    rw [Yaml.Node.ofText?, tokens]
    cbv
  have value : Yaml.ofText codeOnlyRules.toList = .ok (.map [(.text "rules", .map []),
      (.text "count_mode", .text "code_only")]) := by
    rw [Yaml.ofText, node]
    cbv
  simp only [settingsOfContent, decoded, newlines, Except.mapError, bind, Except.bind, value]
  cbv

/-- A disk with two configurations. -/
def withEdited : Surroundings :=
  configured [("edited.yml", .file codeOnlyRules.toUTF8.toList true)]

theorem withEdited_load : (load withEdited (some "edited.yml")).result = .ok codeOnlySettings := by
  have legal : LegalName "edited.yml" := by decide
  have there : withEdited.disk.node (Path.ofText "edited.yml") =
      .ok (.file codeOnlyRules.toUTF8.toList true) := by
    have path : Path.ofText "edited.yml" = ⟨0, ["edited.yml"]⟩ := by cbv
    rw [path]
    exact Disk.node_names rfl rfl (by simp) (by simpa using legal) (Node.passable_single ..)
      (by decide)
  have clean : Disk.hasNul (Path.ofText "edited.yml") = false := by cbv
  have found : locate withEdited (some "edited.yml") = .ok (Path.ofText "edited.yml") := by
    refine locate_eq_ok.mpr ⟨rfl, ?_⟩
    rw [Disk.isFile, Disk.test, clean, there]
    rfl
  have read : withEdited.disk.read (Path.ofText "edited.yml") =
      .ok codeOnlyRules.toUTF8.toList := by
    rw [Disk.read, clean, there]
    rfl
  exact (load_read found read).trans settingsOfContent_codeOnly

/-- A mode and an empty list by flags come to the same as a configuration with this mode. -/
theorem check_flags_codeOnly :
    let flags : Overrides := { countMode := some (.text "code_only"), ignore := some [] }
    let plain := check withEdited { config := some "edited.yml" } List.range
    let ended := check withEdited { overrides := flags } List.range
    plain.exit = ended.exit ∧ plain.output = ended.output := by
  have once (n : Nat) : List.range n ~ List.range n := List.Perm.refl _
  exact (check_flags withEdited withEdited
    { overrides := { countMode := some (.text "code_only"), ignore := some [] } } {}
    codeOnlySettings List.range List.range once once (configured_load _)
    (edited_iff.mpr rfl)).1 (some "edited.yml") withEdited_load (.refl ..)

/-- A disk with nothing but a configuration in its root, where runs start. -/
def alone (content : List UInt8) : Surroundings :=
  { disk := { root := .directory [(preferredName, .file content true)] {} } }

/-- The report on a single file in a target, under the usual limits. -/
def aloneReport (lines : Nat) : Report :=
  analyze [⟨preferredName, lines, lines⟩] ["."] .all ⟨300, 2000, 10⟩

section Alone
variable {content : List UInt8} {c : Settings} {flags : Overrides} {n : Nat}

theorem alone_unignored :
    (alone content).disk.node (ignorePlace (alone content).disk) = .error .notFound := by
  have legal : LegalName ignoreName := by decide
  have short : (Path.ofLocation [ignoreName]).text.utf8ByteSize < pathLimit := by decide
  exact Disk.node_missing rfl rfl rfl legal rfl short

theorem alone_scan : (scan (alone content).disk keepAll (Path.ofText ".")).result =
    .ok ⟨[⟨[preferredName]⟩]⟩ := by
  have reached : directoryOfTarget (alone content).disk (Path.ofText ".") = .ok ⟨1, []⟩ := by cbv
  rw [keepAll_scan alone_unignored rfl reached]
  cbv

theorem alone_count (fits : Line.Fits (64 * 1024) content) : ∃ c,
    countEntry (alone content).disk (Path.ofText ".") .all ⟨[preferredName]⟩ = .ok c ∧
      c.total = (Line.segments content).length := by
  have place : ((Path.ofLocation ((alone content).disk.canonical (Path.ofText "."))).append
      [preferredName]).text = "/" ++ preferredName := by cbv
  have path : Path.ofText ("/" ++ preferredName) = ⟨1, [preferredName]⟩ := by cbv
  have legal : LegalName preferredName := by decide
  have read : (alone content).disk.read (Path.ofText ("/" ++ preferredName)) = .ok content := by
    rw [path, Disk.read_eq_ok (by decide)]
    exact Disk.node_names rfl rfl (by simp) (by simpa using legal) (Node.passable_single ..)
      (by decide)
  obtain ⟨c, counted, _, total⟩ := countContent_fits ("/" ++ preferredName) .all fits
  refine ⟨c, ?_, total⟩
  rw [countEntry, place, countFile_read _ _ read]
  exact counted

/-- What is written of a configuration that is alone on its disk, if nothing is left out. -/
theorem alone_output (loaded : (load (alone content) none).result = .ok c)
    (same : c.override flags = keepAll) (fits : Line.Fits (64 * 1024) content)
    (length : (Line.segments content).length = n)
    (writable : Report.isWritable .json (aloneReport n) = true) :
    (check (alone content) { format := .json, overrides := flags } List.range).output =
      Report.jsonText (aloneReport n) := by
  have once (n : Nat) : List.range n ~ List.range n := List.Perm.refl _
  have named : Message.Locale.ofName (languageName (alone content) none) = .ok .en := by rfl
  obtain ⟨⟨path, total, code⟩, counted, lines⟩ := alone_count fits
  obtain rfl : total = n := lines.trans length
  have valid : (c.override flags).validate = .ok () := by
    rw [same]
    rfl
  obtain ⟨x, report⟩ : ∃ x : Examined (alone content).disk (c.override flags) (Path.ofText "."),
      x.report = aloneReport total := by
    rw [same]
    exact ⟨⟨⟨[], []⟩, ⟨[⟨[preferredName]⟩]⟩, .all, ⟨300, 2000, 10⟩, [⟨path, total, code⟩],
      (rules_unfiltered rfl rfl alone_unignored rfl).1, alone_scan, rfl, rfl, congrArg ([·]) counted.symm⟩,
      rfl⟩
  let p : Passed (alone content) { format := .json, overrides := flags } :=
    ⟨.en, c, named, loaded, valid, x, report ▸ writable⟩
  rcases check_cases (alone content) { format := .json, overrides := flags } List.range once with
    ⟨fails, _⟩ | ⟨q, _, output⟩
  · exact (fails.not_passed p).elim
  · rw [output, q.unique p]
    exact congrArg Report.jsonText report
end Alone

/-- A configuration that leaves out nothing, which takes a line more than one that says nothing. -/
def keepingRules : String := "\"rules\": \x7b\x7d\n\"default_excludes\": false"

theorem settingsOfContent_keeping :
    settingsOfContent keepingRules.toUTF8.toList = .ok keepAll := by
  have decoded : Text.Utf8.decode keepingRules.toUTF8.toList = .ok keepingRules.toList := by cbv
  have newlines : Text.unifyNewlines keepingRules.toList = keepingRules.toList := by cbv
  have tokens : Yaml.Token.ofText keepingRules.toList = ([.mappingStart, .key,
      .scalar false "rules", .value, .flowMappingStart, .flowMappingEnd, .key,
      .scalar false "default_excludes", .value, .scalar true "false", .blockEnd, .streamEnd],
      none) := by cbv
  have node : Yaml.Node.ofText? keepingRules.toList = .ok (some (.mapping none .map
      [(.scalar none .str "rules", .mapping none .map []),
       (.scalar none .str "default_excludes", .scalar none .bool "false")])) := by
    rw [Yaml.Node.ofText?, tokens]
    cbv
  have value : Yaml.ofText keepingRules.toList = .ok (.map [(.text "rules", .map []),
      (.text "default_excludes", .bool false)]) := by
    rw [Yaml.ofText, node]
    cbv
  simp only [settingsOfContent, decoded, newlines, Except.mapError, bind, Except.bind, value]
  rfl

/-- A configuration in the target is among what is checked. Written into it, a flag that changes no
limit changes the number of its lines, and with it the report. -/
theorem check_flags_in_place :
    let request : CheckRequest := { format := .json, overrides := { noDefaultExcludes := true } }
    let s := alone noRules.toUTF8.toList
    let s' := alone keepingRules.toUTF8.toList
    (load s none).result = .ok {} ∧ Edited {} request.overrides keepAll ∧ keepAll.Valid ∧
    (load s' none).result = .ok keepAll ∧
    (check s request List.range).output ≠
      (check s' { request with overrides := {} } List.range).output := by
  intro request s s'
  have loaded : (load s none).result = .ok {} := configured_load []
  have found : (load s' none).result = .ok keepAll :=
    (load_preferred rfl rfl rfl rfl).trans settingsOfContent_keeping
  have one : (check s request List.range).output = Report.jsonText (aloneReport 1) :=
    alone_output loaded rfl (by decide +kernel) (by decide +kernel) (by decide +kernel)
  have two : (check s' { request with overrides := {} } List.range).output =
      Report.jsonText (aloneReport 2) :=
    alone_output found rfl (by decide +kernel) (by decide +kernel) (by decide +kernel)
  refine ⟨loaded, edited_iff.mpr rfl, validate_eq_ok.mp rfl, found, ?_⟩
  rw [one, two]
  intro same
  have rows := congrArg (List.map Row.lines) (LineBudget.Report.jsonText_injective same)
  exact absurd rows (by decide +kernel)
end LineBudget.Command
