import LineBudget.Command.Init
import LineBudget.Proofs.Config.Load
import LineBudget.Proofs.Files.Writing

/-! What writing the default settings does to a disk. No file but the configuration itself is
touched, and that one only with the consent of the user. What is reported is what happened, as long
as there is an answer to whether the configuration exists. -/
namespace LineBudget.Command
open LineBudget.Files LineBudget.Config

/-- The path of the configuration that is written. -/
def preferredPlace : Path := Path.ofText preferredName

/-- Something stands at the path of the configuration, links followed. -/
def Occupied (d : Disk) : Prop := ∃ names, d.place preferredPlace true = .ok (.taken names)

/-- An existing configuration may be replaced. -/
def Consents (request : InitRequest) (answer : Answer) : Prop :=
  request.force = true ∨ answer = some true

/-- What is asked about a configuration that exists. -/
def questions (locale : Message.Locale) (request : InitRequest) : List Question :=
  if request.force then [] else [overwriteQuestion locale]

def told (locale : Message.Locale) (written : Written) : Outcome :=
  { exit := 0, output := Message.say locale written.key [] ++ "\n" }

def notTold (locale : Message.Locale) : Outcome :=
  failed {}
    (Message.say locale "err.write_config" [s!"Failed to write to file: {preferredPlace.text}"])

/-- By one write, the file at the path of the configuration has the template for its content, and
nothing else was touched. -/
structure Installed (before after : Disk) (names : List String) : Prop where
  written : before.write preferredPlace template "w" = .ok after
  replaced : before.Replaced preferredPlace (Text.Utf8.encode template) after names

/-- Reasons for which it cannot be told whether the configuration exists: a name or the whole path is
too long, or a directory on the way cannot be searched. -/
def Withholds (reason : Reason) : Prop := reason = .nameTooLong ∨ reason = .permissionDenied

instance (reason : Reason) : Decidable (Withholds reason) := inferInstanceAs (Decidable (_ ∨ _))

/-- The courses that a run in a language can take, by what stands at the path of the
configuration. -/
inductive Course (s : Surroundings) (request : InitRequest) (answer : Answer)
    (locale : Message.Locale) : InitOutcome → Prop
  | created {names : List String} {disk : Disk}
    (place : s.disk.place preferredPlace true = .ok (.vacant names))
    (installed : Installed s.disk disk names) :
    Course s request answer locale { outcome := told locale .created, disk }
  | overwritten {names : List String} {content : List UInt8} {readable : Bool} {disk : Disk}
    (place : s.disk.place preferredPlace true = .ok (.taken names))
    (found : s.disk.root.find? names = some (.file content readable))
    (consents : Consents request answer) (installed : Installed s.disk disk names) :
    Course s request answer locale
      { outcome := told locale .overwritten, asked := questions locale request, disk }
  | cancelled (occupied : Occupied s.disk) (refuses : ¬ Consents request answer) :
    Course s request answer locale
      { outcome := told locale .cancelled, asked := questions locale request, disk := s.disk }
  | noFile {names : List String} (place : s.disk.place preferredPlace true = .ok (.taken names))
    (other : ∀ content readable, s.disk.root.find? names ≠ some (.file content readable))
    (consents : Consents request answer) :
    Course s request answer locale
      { outcome := notTold locale, asked := questions locale request, disk := s.disk }
  | unreached {reason : Reason} (place : s.disk.place preferredPlace true = .error reason)
    (answered : ¬ Withholds reason) :
    Course s request answer locale { outcome := notTold locale, disk := s.disk }
  /-- Without an answer to whether the configuration exists, the command breaks off. -/
  | unanswered {reason : Reason} (place : s.disk.place preferredPlace true = .error reason)
    (unanswered : Withholds reason) :
    Course s request answer locale {
      outcome := { exit := escapeCode }, disk := s.disk
      escaped := some ⟨reason.kind, (Refusal.mk reason preferredPlace.text).message, none⟩ }

variable {s : Surroundings} {request : InitRequest} {answer : Answer} {locale : Message.Locale}
  {d : Disk} {names : List String}

section Place

theorem preferredPlace_eq : preferredPlace = ⟨0, [preferredName]⟩ := ofText_preferredName

theorem preferredPlace_clean : Disk.hasNul preferredPlace = false := by
  rw [preferredPlace_eq]
  decide

theorem taken_present (place : d.place preferredPlace true = .ok (.taken names)) :
    ∃ node, d.root.find? names = some node := by
  obtain ⟨_, followed⟩ := Disk.place_eq_ok place
  rw [preferredPlace_eq] at followed
  have present : (d.root.find? (d.start ⟨0, [preferredName]⟩)).isSome = true := by
    cases found : d.root.find? (d.start ⟨0, [preferredName]⟩) with
    | some => rfl
    | none =>
      rw [follow, found] at followed
      cases followed
  exact Option.isSome_iff_exists.mp (follow_taken present followed)

theorem present_taken (place : d.place preferredPlace true = .ok (.taken names)) :
    d.pathExists preferredPlace = .ok true := by
  obtain ⟨node, found⟩ := taken_present place
  exact Disk.pathExists_taken preferredPlace_clean place found

theorem present_vacant (place : d.place preferredPlace true = .ok (.vacant names)) :
    d.pathExists preferredPlace = .ok false :=
  Disk.pathExists_vacant preferredPlace_clean place

/-- Of the reasons that come up while names are followed, only two leave the test without an
answer. -/
theorem present_error {reason : Reason} (place : d.place preferredPlace true = .error reason) :
    d.pathExists preferredPlace = if Withholds reason
      then .error (.refused ⟨reason, preferredPlace.text⟩) else .ok false := by
  have lost : d.node preferredPlace = .error reason := by rw [Disk.node, place]
  have lookup := Disk.node_error lost
  rw [Disk.pathExists, Disk.test, preferredPlace_clean, lost]
  cases reason with
  | notFound | permissionDenied | notDirectory | nameTooLong | tooManyLinks => rfl
  | _ => cases lookup

end Place

section Template
variable {σ : Type} {writer : Writer σ} {state : σ}

/-- One write of the template. -/
def attempt (writer : Writer σ) (state : σ) (done : Written) : Except Setback (Written × σ) :=
  match writer.write state template "w" with
  | .ok next => .ok (done, next)
  | .error e => .error (.ofWriteError e)

theorem writeTemplate_absent (absent : writer.present state = .ok false) :
    writeTemplate writer state locale request.force answer =
      { result := attempt writer state .created } := by
  rw [writeTemplate, absent]
  rfl

theorem writeTemplate_consents (there : writer.present state = .ok true)
    (consents : Consents request answer) :
    writeTemplate writer state locale request.force answer =
      { result := attempt writer state .overwritten, asked := questions locale request } := by
  rw [writeTemplate, there, questions]
  cases forced : request.force with
  | true => rfl
  | false =>
    have agreed : answer = some true := by simpa [Consents, forced] using consents
    rw [agreed]
    rfl

theorem writeTemplate_refuses (there : writer.present state = .ok true)
    (refuses : ¬ Consents request answer) :
    writeTemplate writer state locale request.force answer =
      { result := .ok (.cancelled, state), asked := questions locale request } := by
  obtain ⟨unforced, disagreed⟩ : request.force = false ∧ answer ≠ some true := by
    simpa [Consents] using refuses
  rw [writeTemplate, there, questions, unforced]
  simp [disagreed]

theorem writeTemplate_unanswered {failure : Failure}
    (unanswered : writer.present state = .error failure) :
    writeTemplate writer state locale request.force answer =
      { result := .error (.ofAccess failure) } := by
  rw [writeTemplate, unanswered]

/-- A draft, which keeps a record of what is written to it, is written to once at most. -/
theorem writeTemplate_draft (draft : Draft) (locale : Message.Locale) (request : InitRequest)
    (answer : Answer) : ∃ written after,
      (writeTemplate Writer.draft draft locale request.force answer).result = .ok (written, after) ∧
      (after.writes = draft.writes ∨ after.writes = (template, "w") :: draft.writes) := by
  cases there : draft.content.isSome with
  | false =>
    have absent : Writer.draft.present draft = .ok false := congrArg Except.ok there
    rw [writeTemplate_absent absent]
    exact ⟨_, _, rfl, .inr rfl⟩
  | true =>
    have present : Writer.draft.present draft = .ok true := congrArg Except.ok there
    by_cases consents : Consents request answer
    · rw [writeTemplate_consents present consents]
      exact ⟨_, _, rfl, .inr rfl⟩
    · rw [writeTemplate_refuses present consents]
      exact ⟨_, _, rfl, .inl rfl⟩

end Template

section Init

theorem init_eq
    (spoken : Message.Locale.ofName (languageName s request.language) = .ok locale) :
    init s request answer = conclude locale s.disk
      (writeTemplate (Writer.file preferredPlace) s.disk locale request.force answer) := by
  rw [init, spoken]
  rfl

theorem conclude_problem (problem : Problem) (asked : List Question) :
    conclude locale d { result := .error (.problem problem), asked } =
      { outcome := failed {} (writeFailure locale problem), asked, disk := d } := rfl

/-- The run that breaks off before anything is asked or written. -/
theorem conclude_unanswered {reason : Reason} (place : d.place preferredPlace true = .error reason)
    (unanswered : Withholds reason) :
    conclude locale d (writeTemplate (Writer.file preferredPlace) d locale request.force answer) = {
      outcome := { exit := escapeCode }, disk := d
      escaped := some ⟨reason.kind, (Refusal.mk reason preferredPlace.text).message, none⟩ } := by
  have failed : (Writer.file preferredPlace).present d =
      .error (.refused ⟨reason, preferredPlace.text⟩) :=
    (present_error place).trans (if_pos unanswered)
  rw [writeTemplate_unanswered failed]
  rfl

theorem attempt_written (reached : s.disk.Reaches preferredPlace names) (done : Written) :
    ∃ disk, attempt (Writer.file preferredPlace) s.disk done = .ok (done, disk) ∧
      Installed s.disk disk names := by
  obtain ⟨disk, written, replaced⟩ := Disk.write_reaching preferredPlace_clean reached template
  refine ⟨disk, ?_, written, replaced⟩
  rw [attempt, Writer.file]
  simp only [written]

theorem message_file {use : FileUse} {message : String} {path : Option String}
    {cause : Option Cause} (said : message ≠ "") :
    (Problem.file use (some message) path cause).message = message := by
  change ((some message).filter (· ≠ "")).getD _ = message
  rw [Option.filter_some, if_pos (decide_eq_true said), Option.getD_some]

/-- A refused write is a foreseen problem, and it is told as one. -/
theorem attempt_refused (unreached : ∀ names, ¬ s.disk.Reaches preferredPlace names)
    (done : Written) (locale : Message.Locale) :
    ∃ problem, attempt (Writer.file preferredPlace) s.disk done = .error (.problem problem) ∧
      failed {} (writeFailure locale problem) = notTold locale := by
  obtain ⟨refusal, refused⟩ := Disk.write_refused preferredPlace_clean unreached template
  refine ⟨Setback.ofWriteError.failed preferredPlace.text (Cause.ofRefusal refusal), ?_, ?_⟩
  · rw [attempt, Writer.file]
    simp only [refused]
    rfl
  · have said : s!"Failed to write to file: {preferredPlace.text}" ≠ "" := by simp [toString]
    exact congrArg (fun message => failed {} (Message.say locale "err.write_config" [message]))
      (message_file said)

theorem init_course
    (spoken : Message.Locale.ofName (languageName s request.language) = .ok locale) :
    Course s request answer locale (init s request answer) := by
  rw [init_eq spoken]
  cases place : s.disk.place preferredPlace true with
  | error reason =>
    have present := present_error place
    by_cases unanswered : Withholds reason
    · rw [conclude_unanswered place unanswered]
      exact .unanswered place unanswered
    · rw [if_neg unanswered] at present
      obtain ⟨problem, refused, text⟩ :=
        attempt_refused (Disk.not_reaches_error place) .created locale
      rw [writeTemplate_absent present, refused, conclude_problem, text]
      exact .unreached place unanswered
  | ok reached =>
    cases reached with
    | vacant names =>
      obtain ⟨disk, written, installed⟩ := attempt_written (.free place) .created
      rw [writeTemplate_absent (present_vacant place), written]
      exact .created place installed
    | taken names =>
      have present := present_taken place
      by_cases consents : Consents request answer
      · rw [writeTemplate_consents present consents]
        by_cases file : ∃ content readable, s.disk.root.find? names = some (.file content readable)
        · obtain ⟨content, readable, found⟩ := file
          obtain ⟨disk, written, installed⟩ := attempt_written (.file place found) .overwritten
          rw [written]
          exact .overwritten place found consents installed
        · have other (content : List UInt8) (readable : Bool) :
              s.disk.root.find? names ≠ some (.file content readable) :=
            fun found => file ⟨content, readable, found⟩
          obtain ⟨problem, refused, text⟩ :=
            attempt_refused (Disk.not_reaches_taken place other) .overwritten locale
          rw [refused, conclude_problem, text]
          exact .noFile place other consents
      · rw [writeTemplate_refuses present consents]
        exact .cancelled ⟨names, place⟩ consents

variable {ended : InitOutcome}

/-- The user is asked once, and only about a configuration that is there. -/
theorem Course.asked (course : Course s request answer locale ended) :
    ended.asked = [overwriteQuestion locale] ∧ Occupied s.disk ∧ request.force = false ∨
      ended.asked = [] ∧ ¬ (Occupied s.disk ∧ request.force = false) := by
  have asks (occupied : Occupied s.disk) :
      questions locale request = [overwriteQuestion locale] ∧ Occupied s.disk ∧
          request.force = false ∨
        questions locale request = [] ∧ ¬ (Occupied s.disk ∧ request.force = false) := by
    cases forced : request.force with
    | false => exact .inl ⟨by rw [questions, forced]; rfl, occupied, rfl⟩
    | true => exact .inr ⟨by rw [questions, forced]; rfl, nofun⟩
  cases course with
  | overwritten place | noFile place => exact asks ⟨_, place⟩
  | cancelled occupied => exact asks occupied
  | created place | unreached place | unanswered place =>
    refine .inr ⟨rfl, ?_⟩
    rintro ⟨⟨names, other⟩, _⟩
    cases place.symm.trans other

theorem Course.once (course : Course s request answer locale ended) :
    ended.disk = s.disk ∨ s.disk.write preferredPlace template "w" = .ok ended.disk := by
  cases course with
  | created _ installed | overwritten _ _ _ installed => exact .inr installed.written
  | cancelled | noFile | unreached | unanswered => exact .inl rfl

/-- A file keeps its content, unless it is the configuration and may be replaced. -/
theorem Course.files (course : Course s request answer locale ended) {content : List UInt8}
    {readable : Bool} (found : s.disk.root.find? names = some (.file content readable)) :
    ended.disk.root.find? names = some (.file content readable) ∨
      Consents request answer ∧ s.disk.place preferredPlace true = .ok (.taken names) ∧
        ∃ readable, ended.disk.root.find? names =
          some (.file (Text.Utf8.encode template) readable) := by
  cases course with
  | cancelled | noFile | unreached | unanswered => exact .inl found
  | created place installed =>
    refine (installed.replaced.file found).imp_right ?_
    rintro rfl
    have none := (follow_vacant (Disk.place_eq_ok place).2).2
    cases none.symm.trans found
  | overwritten place _ consents installed =>
    refine (installed.replaced.file found).imp_right ?_
    rintro rfl
    exact ⟨consents, place, installed.replaced.content⟩

/-- Whatever stands on the disk and whatever the user answers, the run takes one of its courses, and
no file is lost: all of them stay as they are but the configuration, which is replaced only by
force or with the consent of the user. There is one write at most, also on a draft, which keeps a
record of all writes. In a language that is not supported nothing is done. -/
theorem init_exact (s : Surroundings) (request : InitRequest) (answer : Answer) :
    (∀ unsupported, Message.Locale.ofName (languageName s request.language) = .error unsupported →
      init s request answer = { outcome := failed {} unsupported.message, disk := s.disk }) ∧
    ∀ locale, Message.Locale.ofName (languageName s request.language) = .ok locale →
      let ended := init s request answer
      Course s request answer locale ended ∧
      (ended.asked = [overwriteQuestion locale] ∧ Occupied s.disk ∧ request.force = false ∨
        ended.asked = [] ∧ ¬ (Occupied s.disk ∧ request.force = false)) ∧
      (ended.disk = s.disk ∨ s.disk.write preferredPlace template "w" = .ok ended.disk) ∧
      (∀ names content readable, s.disk.root.find? names = some (.file content readable) →
        ended.disk.root.find? names = some (.file content readable) ∨
          Consents request answer ∧ s.disk.place preferredPlace true = .ok (.taken names) ∧
            ∃ readable, ended.disk.root.find? names =
              some (.file (Text.Utf8.encode template) readable)) ∧
      ∀ draft : Draft, ∃ written after,
        (writeTemplate Writer.draft draft locale request.force answer).result =
          .ok (written, after) ∧
        (after.writes = draft.writes ∨ after.writes = (template, "w") :: draft.writes) := by
  constructor
  · intro unsupported unspoken
    rw [init, unspoken]
  · intro locale spoken
    have course : Course s request answer locale (init s request answer) := init_course spoken
    refine ⟨course, course.asked, course.once, fun _ _ _ found => course.files found, ?_⟩
    exact fun draft => writeTemplate_draft draft locale request answer

/-- A name that is longer than any entry can be called. -/
def longName : String := String.ofList (List.replicate 256 'a')

/-- A directory in which the configuration is a link to such a name. -/
def longLinked : Surroundings :=
  ⟨{ root := .directory [(preferredName, .link longName)] {} }, []⟩

theorem place_longLinked : longLinked.disk.place preferredPlace true = .error .nameTooLong := by
  have letters : longName.toList = List.replicate 256 'a' := String.toList_ofList
  have proper : ProperName longName := by
    have differs (other : String) (size : other.toList.length ≠ 256) : longName ≠ other := by
      rintro rfl
      exact size (by rw [letters, List.length_replicate])
    refine ⟨differs "" (by decide), differs "." (by decide), fun member => ?_⟩
    rw [letters] at member
    exact absurd (List.eq_of_mem_replicate member) (by decide)
  have named : LegalName preferredName := by decide
  have found : longLinked.disk.root.find? [] =
      some (.directory [(preferredName, .link longName)] {}) := rfl
  have begun : longLinked.disk.start ⟨0, [preferredName]⟩ = [] := rfl
  have short : ¬ pathLimit ≤ (⟨0, [preferredName]⟩ : Path).text.utf8ByteSize := by decide +kernel
  rw [preferredPlace_eq, Disk.place, if_neg short, begun, linkLimit,
    follow_link found rfl named.proper.1 named.proper.2.1 named.notUp named.short
      List.lookup_cons_self,
    (relative_name proper.2.2).1, linkSteps_name proper, List.append_nil, if_neg Bool.false_ne_true]
  exact follow_long found rfl (by decide +kernel)

/-- There nothing stands where the link leads, and yet the configuration is neither created nor
reported: the test of its existence breaks off the run. -/
theorem init_breaks_off :
    let ended := init longLinked {} none
    longLinked.disk.root.find? [longName] = none ∧ ended.asked = [] ∧
      ended.disk = longLinked.disk ∧ ended.outcome.exit ≠ 0 ∧ ended.outcome.exit ≠ failureCode ∧
      ended.outcome.output = "" ∧
      ended.escaped = some ⟨"OSError", "[Errno 36] File name too long: '.linecap.yml'", none⟩ := by
  have named : languageName longLinked ({} : InitRequest).language = "en" := rfl
  have spoken : Message.Locale.ofName (languageName longLinked ({} : InitRequest).language) =
      .ok .en := by
    rw [named]
    rfl
  rw [init_eq spoken, conclude_unanswered place_longLinked (.inl rfl)]
  exact ⟨by decide +kernel, rfl, rfl, by decide, by decide, rfl, by
    rw [preferredPlace_eq]
    decide +kernel⟩

end Init

end LineBudget.Command
