import LineBudget.Proofs.Command.Effective
import LineBudget.Proofs.Command.Modes
import LineBudget.Proofs.Config.Failures
import LineBudget.Proofs.Report.Verbatim

/-! How a check is presented, and how it ends: the format, the language of the messages and the notes
have no part in the verdict. Only a report that has no document ends a check in one format and not in
the other. -/
namespace LineBudget.Command
open LineBudget.Files LineBudget.Config LineBudget.Scan LineBudget.Count LineBudget.Analysis
open scoped List

/-- Two configurations that differ in their language alone, or of which neither can be loaded. -/
inductive LoadsAlike (s s' : Surroundings) (config config' : Option String) : Prop
  | both (c : Settings) (language : Value) (loaded : (load s config).result = .ok c)
    (loaded' : (load s' config').result = .ok { c with language })
  | neither {e e' : LoadError} (failed : (load s config).result = .error e)
    (failed' : (load s' config').result = .error e')

/-- Two runs that are told apart by the language of their messages alone, be it the flag, the
variable or the configuration that asks for it. Should the configuration itself be among the files of
the target, it has as many lines in either language. -/
structure Respoken (s s' : Surroundings) (request request' : CheckRequest) : Prop where
  target : request.target = request'.target
  format : request.format = request'.format
  flags : request.overrides = request'.overrides
  named : ∃ early, Message.Locale.ofName (languageName s request.language) = .ok early
  named' : ∃ early, Message.Locale.ofName (languageName s' request'.language) = .ok early
  loads : LoadsAlike s s' request.config request'.config
  current : s.disk.current = s'.disk.current
  ignore : ReadsSame s.disk s'.disk (ignorePlace s.disk)
  reached : directoryOfTarget s.disk (Path.ofText request.target) =
    directoryOfTarget s'.disk (Path.ofText request.target)
  walked : ∀ place, directoryOfTarget s.disk (Path.ofText request.target) = .ok place →
    walk s.disk place = walk s'.disk place
  counted : countEntry s.disk (Path.ofText request.target) =
    countEntry s'.disk (Path.ofText request.target)

section Formats
variable {s : Surroundings} {request : CheckRequest}

end Formats

section Languages
variable {s s' : Surroundings} {request request' : CheckRequest} {c : Settings}

theorem LoadsAlike.symm {config config' : Option String} (alike : LoadsAlike s s' config config') :
    LoadsAlike s' s config' config := by
  cases alike with
  | both c _ loaded loaded' => exact .both _ c.language loaded' loaded
  | neither failed failed' => exact .neither failed' failed

theorem Respoken.symm (respoken : Respoken s s' request request') :
    Respoken s' s request' request := by
  obtain ⟨target, format, flags, named, named', loads, current, ignore, reached, walked, counted⟩ :=
    respoken
  have place : ignorePlace s'.disk = ignorePlace s.disk := by
    rw [ignorePlace, ignorePlace, currentDirectory, currentDirectory, current]
  refine ⟨target.symm, format.symm, flags.symm, named', named, loads.symm, current.symm, ?_, ?_, ?_,
    ?_⟩
  · exact place ▸ ⟨ignore.present.symm, ignore.content.symm⟩
  · exact target ▸ reached.symm
  · rw [← target, ← reached]
    exact fun place found => (walked place found).symm
  · exact target ▸ counted.symm

/-- The patterns, the mode and the limits of settings are the same in any language. -/
theorem scan_language (c : Settings) (flags : Overrides) (language : Value) (d : Disk)
    (target : Path) : scan d ({ c with language }.override flags) target =
      scan d (c.override flags) target := by
  have given : rules d ({ c with language }.override flags) = rules d (c.override flags) := rfl
  simp only [scan, given]

theorem mode_language (c : Settings) (flags : Overrides) (language : Value) :
    ({ c with language }.override flags).mode = (c.override flags).mode := rfl

theorem limits?_language (c : Settings) (flags : Overrides) (language : Value) :
    limits? ({ c with language }.override flags) = limits? (c.override flags) := rfl

theorem userPatterns_language (c : Settings) (flags : Overrides) (language : Value) (d : Disk)
    (base : Path) : ({ c with language }.override flags).userPatterns d base =
      (c.override flags).userPatterns d base := rfl

/-- Settings that were valid stay so in another language that a configuration may ask for. -/
theorem valid_respoken {flags : Overrides} {language : Value}
    (valid : (c.override flags).Valid) (other : { c with language }.Valid) :
    ({ c with language }.override flags).Valid :=
  ⟨valid.file, valid.directory, valid.percentage, valid.mode, other.language⟩

/-- A run that goes through all of its stages has a counterpart in the other language. -/
theorem Respoken.passed (respoken : Respoken s s' request request') (p : Passed s request) :
    ∃ q : Passed s' request', q.report = p.report := by
  obtain ⟨target, format, flags, _, ⟨early', named'⟩, loads, current, ignore, reached, walked,
    counted⟩ := respoken
  obtain ⟨early, settings, named, found, valid, x, writable⟩ := p
  cases loads with
  | neither failed => cases failed.symm.trans found
  | both c language loaded loaded' =>
    obtain rfl : c = settings := Except.ok.inj (loaded.symm.trans found)
    have valid' := valid_respoken (validate_eq_ok.mp valid) (load_valid loaded')
    obtain ⟨y, report, _⟩ : ∃ y : Examined s'.disk ({ c with language }.override request.overrides)
        (Path.ofText request.target), y.report = x.report ∧ y.user = x.user := by
      apply x.moved
      · rw [userPatterns_language, ← userPatterns_congr current ignore]
        exact x.read
      · rw [scan_language, ← scan_congr current ignore reached]
        · exact x.scanned
        · exact fun place _ found _ => congrFun (walked place found) _
      · rw [mode_language]
        exact x.chosen
      · rw [limits?_language]
        exact x.limited
      · exact fun e _ => .of_eq (congrFun (congrFun counted _) e)
    rw [flags] at valid'
    rw [← report, format] at writable
    obtain ⟨z, same⟩ : ∃ z : Examined s'.disk ({ c with language }.override request'.overrides)
        (Path.ofText request'.target), z.report = y.report := by
      rw [← flags, ← target]
      exact ⟨y, rfl⟩
    exact ⟨⟨early', { c with language }, named', loaded', validate_eq_ok.mpr valid', z,
      same ▸ writable⟩, same.trans report⟩

/-- The language has no part in the exit code, nor in what is written in JSON. -/
theorem Respoken.check (respoken : Respoken s s' request request') {order order' : Nat → List Nat}
    (once : ∀ n, order n ~ List.range n) (once' : ∀ n, order' n ~ List.range n) :
    (check s request order).exit = (check s' request' order').exit ∧
      (request.format = .json →
        (check s request order).output = (check s' request' order').output) := by
  rcases check_both once once' (fun p => ⟨(respoken.passed p).choose⟩)
    (fun q => ⟨(respoken.symm.passed q).choose⟩) with
    ⟨exit, output, exit', output'⟩ | ⟨p, q, ⟨exit, output⟩, exit', output'⟩
  · exact ⟨exit.trans exit'.symm, fun _ => output.trans output'.symm⟩
  · obtain ⟨other, report⟩ := respoken.passed p
    rw [other.unique q] at report
    refine ⟨by rw [exit, exit', report], fun json => ?_⟩
    rw [output, output', Passed.output, Passed.output, report, ← respoken.format, json]
    rfl

end Languages

section Notes
variable {s : Surroundings} {request : CheckRequest} {order order' : Nat → List Nat}

/-- No stage asks whether notes are wanted. -/
def Passed.noted {verbose : Bool} (p : Passed s { request with verbose }) (wanted : Bool) :
    Passed s { request with verbose := wanted } :=
  ⟨p.early, p.settings, p.named, p.loaded, p.valid, p.examined, p.writable⟩

end Notes

end LineBudget.Command
