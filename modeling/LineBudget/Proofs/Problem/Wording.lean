import LineBudget.Config.Overrides
import LineBudget.Problem.Basic
import LineBudget.Proofs.Config.Document
import LineBudget.Proofs.Message.Filling
import Mathlib.Data.List.Forall2

/-! The texts of configuration problems. A problem has its text twice: written out where it is
raised, and under its code in the catalogue of each language. In English both are the same, and what
other languages say is complete: every place of a message is filled, and a detail stands in it as
it is. -/
namespace LineBudget
open LineBudget.Files LineBudget.Config LineBudget.Message

/-- The message of a code in a language, with a text in each of its places. -/
def Message.Worded (locale : Message.Locale) (code : String) (arguments : List String)
    (text : String) : Prop :=
  ∃ template, (catalogue locale).lookup code = some template ∧
    Filled template.toList arguments text.toList

/-- How a configuration problem is told in a language. -/
inductive Problem.Told (locale : Message.Locale) : Problem → String → Prop
  | config {code message text : String} {detail : Option String}
    (worded : Worded locale code detail.toList text) :
    Told locale (.config code message detail) text
  | violations {all : List (String × String)} {texts : List String}
    (worded : List.Forall₂ (fun violation => Worded locale violation.1 []) all texts) :
    Told locale (.violations all) ("; ".intercalate texts)

/-- The configuration problems that can be raised. What a library or the system says of a failed
reading is taken to be any text. -/
inductive Problem.Raised : Problem → Prop
  | unplaced {s : Surroundings} {given : Option String} {e : ConfigError}
    (failed : locate s given = .error (.config e)) : Raised (.ofConfigError e)
  | unloaded {s : Surroundings} {given : Option String} {e : ConfigError}
    (failed : (load s given).result = .error (.config e)) : Raised (.ofConfigError e)
  | invalid {s : Surroundings} {given : Option String} {violations : List Violation}
    (failed : (load s given).result = .error (.invalid violations)) :
    Raised (.ofViolations violations)
  | document {value : Value} {e : ConfigError} (failed : Settings.ofValue value = .error e) :
    Raised (.ofConfigError e)
  | ignoreFile {d : Disk} {place : Path} {e : ConfigError}
    (failed : readIgnoreFile d place = .error (.config e)) : Raised (.ofConfigError e)
  | checked {settings : Settings} {violations : List Violation}
    (failed : settings.validate = .error violations) : Raised (.ofViolations violations)
  | overridden {settings : Settings} {overrides : Option Overrides} {violations : List Violation}
    (failed : (settings.apply overrides).2 = .error violations) : Raised (.ofViolations violations)
  | unparsable {detail : String} (said : detail ≠ "") :
    Raised (.ofConfigError (.unparsable detail))
  | ignoreUnreadable {detail : String} (said : detail ≠ "") :
    Raised (.ofConfigError (.ignoreUnreadable detail))

def Problem.detail? : Problem → Option String
  | .config _ _ detail => detail
  | _ => none

namespace Message
variable {locale other : Message.Locale} {code text : String} {arguments : List String}

/-- What is told without arguments has no place for one, and so it is told as it stands. -/
theorem Worded.phrase_eq (worded : Worded locale code arguments text) :
    phrase locale code arguments = .ok text := by
  obtain ⟨template, found, filled⟩ := worded
  rw [phrase, found]
  change format template arguments = .ok text
  cases arguments with
  | nil =>
    have plain : template.toList = text.toList := filled.nil_eq
    rw [format, List.isEmpty_nil, if_pos rfl, String.toList_inj.mp plain]
  | cons argument rest =>
    have done := filled.fill_eq [] 0
    rw [List.append_nil] at done
    rw [format, List.isEmpty_cons, if_neg Bool.false_ne_true, done]
    exact congrArg Except.ok (String.ofList_toList)

theorem places_lookup (locale other : Message.Locale) (code : String) :
    ((catalogue locale).lookup code).map places = ((catalogue other).lookup code).map places := by
  cases locale with
  | en => cases other with
    | en => rfl
    | ja => exact catalogue_places code
  | ja => cases other with
    | en => exact (catalogue_places code).symm
    | ja => rfl

/-- What can be told in one language can be told in the other one. -/
theorem Worded.counterpart (worded : Worded locale code arguments text) (other : Message.Locale) :
    ∃ text, Worded other code arguments text := by
  obtain ⟨template, found, filled⟩ := worded
  have same := places_lookup locale other code
  rw [found, Option.map_some, eq_comm, Option.map_eq_some_iff] at same
  obtain ⟨template', found', same⟩ := same
  have count : (segments template'.toList).length = arguments.length + 1 := by
    have positive := List.length_pos_iff.mpr (segments_ne_nil template'.toList)
    have length := filled.length
    unfold places at same
    omega
  obtain ⟨result, filled'⟩ := exists_filled count
  refine ⟨String.ofList result, template', found', ?_⟩
  rwa [String.toList_ofList]

section Initials

/-- The characters that keys start with. -/
def keyInitials : List Char := ['c', 'i', 'v', 'e']

/-- The key starts like a key, and the message neither like one nor with a place. -/
def Distinct (entry : String × String) : Prop :=
  (∃ c ∈ keyInitials, entry.1.toList.head? = some c) ∧
    ∃ c, entry.2.toList.head? = some c ∧ c ∉ keyInitials ∧ c ≠ '\x7b'

theorem distinct_of {key message : List Char} {c d : Char} (key_start : c ∈ keyInitials)
    (message_start : d ∉ keyInitials) (unmarked : d ≠ '\x7b') :
    Distinct (String.ofList (c :: key), String.ofList (d :: message)) := by
  refine ⟨⟨c, key_start, ?_⟩, d, ?_, message_start, unmarked⟩ <;> rw [String.toList_ofList] <;> rfl

theorem distinct (locale : Message.Locale) : ∀ entry ∈ catalogue locale, Distinct entry := by
  cases locale
  all_goals
    simp only [catalogue, english, japanese]
    repeat
      refine List.forall_mem_cons.mpr ⟨?_, ?_⟩
      · apply distinct_of
        all_goals decide
    exact List.forall_mem_nil _

theorem not_key (start : ∀ c ∈ text.toList.head?, c ∉ keyInitials) :
    text ∉ (catalogue locale).map Prod.fst := by
  intro member
  obtain ⟨entry, there, rfl⟩ := List.mem_map.mp member
  obtain ⟨c, initial, first⟩ := (distinct locale entry there).1
  exact start c first initial

theorem Worded.head? (worded : Worded locale code arguments text) :
    ∃ c, text.toList.head? = some c ∧ c ∉ keyInitials := by
  obtain ⟨template, found, filled⟩ := worded
  obtain ⟨before, behind, split, _⟩ := List.lookup_eq_some_iff.mp found
  have there : (code, template) ∈ catalogue locale := by simp [split]
  obtain ⟨_, c, start, other, unmarked⟩ := distinct locale _ there
  exact ⟨c, filled.head? start unmarked, other⟩

end Initials
end Message

namespace Problem
variable {locale : Message.Locale} {problem : Problem} {text : String}

theorem localText_violations {all : List (String × String)} {texts : List String}
    (worded : List.Forall₂ (fun violation => Worded locale violation.1 []) all texts) :
    localText locale (.violations all) = .ok ("; ".intercalate texts) := by
  have told : (all.mapM fun violation => phrase locale violation.1 []) = .ok texts := by
    induction worded with
    | nil => rfl
    | cons first _ ih =>
      rw [List.mapM_cons, first.phrase_eq, ih]
      rfl
  change ((all.mapM fun violation => phrase locale violation.1 []) >>= fun texts =>
    .ok ("; ".intercalate texts)) = _
  rw [told]
  rfl

/-- A detail that is empty is left out by the program, though its place is still there. -/
theorem Told.localText_eq (told : Told locale problem text) (said : problem.detail? ≠ some "") :
    problem.localText locale = .ok text := by
  cases told with
  | @config code message _ detail worded =>
    have kept : detail.filter (· ≠ "") = detail := by
      cases detail with
      | none => rfl
      | some detail =>
        have nonempty : detail ≠ "" := fun empty => said (congrArg some empty)
        rw [Option.filter_some, if_pos (decide_eq_true nonempty)]
    change phrase locale code (detail.filter (· ≠ "")).toList = .ok text
    rw [kept, worded.phrase_eq]
  | violations worded => exact localText_violations worded

theorem Told.counterpart (told : Told locale problem text) (other : Message.Locale) :
    ∃ text, Told other problem text := by
  cases told with
  | config worded =>
    obtain ⟨text, worded⟩ := worded.counterpart other
    exact ⟨text, .config worded⟩
  | @violations all texts worded =>
    obtain ⟨texts, worded⟩ : ∃ texts,
        List.Forall₂ (fun violation => Worded other violation.1 []) all texts := by
      induction worded with
      | nil => exact ⟨[], .nil⟩
      | cons first _ ih =>
        obtain ⟨text, first⟩ := first.counterpart other
        obtain ⟨texts, rest⟩ := ih
        exact ⟨text :: texts, .cons first rest⟩
    exact ⟨_, .violations worded⟩

theorem Told.not_key (told : Told locale problem text) (other : Message.Locale) :
    text ∉ (catalogue other).map Prod.fst := by
  apply Message.not_key
  cases told with
  | config worded =>
    obtain ⟨c, start, different⟩ := worded.head?
    simp [start, different]
  | violations worded =>
    cases worded with
    | nil => simp
    | @cons _ first _ rest worded _ =>
      obtain ⟨c, start, different⟩ := worded.head?
      have same : ("; ".intercalate (first :: rest)).toList.head? = some c := by
        cases rest with
        | nil => rw [String.intercalate_singleton, start]
        | cons second rest =>
          rw [String.intercalate_cons_cons, String.toList_append, String.toList_append,
            List.append_assoc, List.head?_append, start, Option.some_or]
      rw [same]
      rintro _ ⟨⟩
      exact different

theorem Told.detail_infix (told : Told locale problem text) :
    ∀ detail ∈ problem.detail?, detail.toList <:+: text.toList := by
  intro detail given
  cases told with
  | config worded =>
    obtain ⟨template, _, filled⟩ := worded
    exact filled.infix (Option.mem_toList.mpr given)
  | violations => cases given

section English

theorem worded_plain {code : String} {message : List Char}
    (found : (catalogue .en).lookup code = some (String.ofList message))
    (plain : ¬ placeMark <:+: message) : Worded .en code [] (String.ofList message) := by
  refine ⟨_, found, ?_⟩
  rw [String.toList_ofList]
  exact .rest plain

theorem worded_detail {code : String} {front : List Char} (detail : String)
    (found : (catalogue .en).lookup code = some (String.ofList (front ++ placeMark)))
    (plain : ¬ placeMark <:+: front) :
    Worded .en code [detail] (String.ofList front ++ detail) := by
  refine ⟨_, found, ?_⟩
  have filled : Filled (front ++ placeMark ++ []) [detail] (front ++ detail.toList ++ []) :=
    .place plain (.rest (by decide))
  rw [List.append_nil, List.append_nil] at filled
  rwa [String.toList_ofList, String.toList_append, String.toList_ofList]

theorem told_configError (e : ConfigError) :
    Told .en (.ofConfigError e) (Problem.ofConfigError e).message := by
  refine .config ?_
  cases e with
  | notFound | rulesRequired =>
    apply worded_plain
    · rfl
    · decide
  | unparsable | ignoreUnreadable =>
    apply worded_detail
    · rfl
    · decide

theorem told_violations (violations : List Violation) :
    Told .en (.ofViolations violations) (Problem.ofViolations violations).message := by
  refine .violations ?_
  rw [List.map_map, List.forall₂_map_left_iff, List.forall₂_map_right_iff, List.forall₂_same]
  intro violation _
  cases violation
  all_goals
    apply worded_plain
    · rfl
    · decide

end English

section Raising
variable {e : ConfigError} {s : Surroundings} {given : Option String} {d : Disk} {place : Path}
  {content : List UInt8}

theorem refusal_said (r : Refusal) : r.message ≠ "" := by
  intro empty
  have letters := congrArg String.toList empty
  simp [Refusal.message] at letters

theorem locate_said (failed : locate s given = .error (.config e)) : e.detail? ≠ some "" := by
  rcases locate_error failed with same | ⟨failure, same⟩
  · cases same
    exact nofun
  · cases same

theorem ofValue_said {value : Value} (failed : Settings.ofValue value = .error e) :
    e.detail? ≠ some "" := by
  cases ofValue_eq_error.mp failed
  all_goals simp [ConfigError.detail?]

theorem settingsOfContent_said (failed : settingsOfContent content = .error (.config e)) :
    e.detail? ≠ some "" := by
  rcases bind_eq_error.mp failed with undecoded | ⟨text, _, failed⟩
  · obtain ⟨_, _, same⟩ := mapError_eq_error.mp undecoded
    cases same
  rcases bind_eq_error.mp failed with unread | ⟨value, _, failed⟩
  · obtain ⟨error, _, same⟩ := mapError_eq_error.mp unread
    split_ifs at same with malformed
    cases same
    cases error with
    | fault fault =>
      cases fault with
      | malformed => simp [ConfigError.detail?, Yaml.Error.message]
      | _ => cases malformed
    | _ => cases malformed
  rcases bind_eq_error.mp failed with unstated | ⟨settings, _, failed⟩
  · obtain ⟨error, refused, same⟩ := mapError_eq_error.mp unstated
    cases same
    exact ofValue_said refused
  rcases bind_eq_error.mp failed with invalid | ⟨_, _, failed⟩
  · obtain ⟨_, _, same⟩ := mapError_eq_error.mp invalid
    cases same
  · cases failed

theorem load_said (failed : (load s given).result = .error (.config e)) :
    e.detail? ≠ some "" := by
  cases found : locate s given with
  | error error =>
    rw [load, found] at failed
    cases failed
    exact locate_said found
  | ok place =>
    rw [load, found] at failed
    rcases bind_eq_error.mp failed with unread | ⟨content, _, failed⟩
    · obtain ⟨failure, _, same⟩ := mapError_eq_error.mp unread
      cases failure with
      | nulInPath => cases same
      | refused refusal =>
        cases same
        exact fun empty => refusal_said refusal (Option.some.inj empty)
    · exact settingsOfContent_said failed

theorem readIgnoreFile_said (failed : readIgnoreFile d place = .error (.config e)) :
    e.detail? ≠ some "" := by
  unfold readIgnoreFile at failed
  split at failed
  case h_1 refusal _ =>
    cases failed
    exact fun empty => refusal_said refusal (Option.some.inj empty)
  case h_2 => cases failed
  case h_3 content _ =>
    unfold patternsOfContent at failed
    split at failed
    all_goals cases failed

/-- What is raised is told in English by its own message, and no detail of it is empty. -/
theorem Raised.told (raised : Raised problem) :
    Told .en problem problem.message ∧ problem.detail? ≠ some "" := by
  cases raised with
  | unplaced failed => exact ⟨told_configError _, locate_said failed⟩
  | unloaded failed => exact ⟨told_configError _, load_said failed⟩
  | document failed => exact ⟨told_configError _, ofValue_said failed⟩
  | ignoreFile failed => exact ⟨told_configError _, readIgnoreFile_said failed⟩
  | unparsable said | ignoreUnreadable said =>
    exact ⟨told_configError _, fun empty => said (Option.some.inj empty)⟩
  | invalid | checked | overridden => exact ⟨told_violations _, nofun⟩

/-- A configuration problem is told in every language without a failure. In English its text is its
own message. In every language it is the message of its code, or of the codes of its violations,
with no place left empty, no key of a catalogue, and holds the detail as it is. -/
theorem localText_exact (raised : Raised problem) :
    problem.localText .en = .ok problem.message ∧
    ∀ locale, ∃ text, problem.localText locale = .ok text ∧ Told locale problem text ∧
      (∀ other, text ∉ (catalogue other).map Prod.fst) ∧
      ∀ detail ∈ problem.detail?, detail.toList <:+: text.toList := by
  obtain ⟨told, said⟩ := raised.told
  refine ⟨told.localText_eq said, fun locale => ?_⟩
  obtain ⟨text, told⟩ := told.counterpart locale
  exact ⟨text, told.localText_eq said, told, told.not_key, told.detail_infix⟩

theorem localText_exact_unmapped :
    Settings.ofValue (.list []) = .error (.unparsable "top level must be a mapping") ∧
    let problem := Problem.ofConfigError (.unparsable "top level must be a mapping")
    problem.localText .en = .ok "Failed to parse config file: top level must be a mapping" ∧
    ∃ text, problem.localText .ja = .ok text ∧ text ∉ (catalogue .ja).map Prod.fst ∧
      "top level must be a mapping".toList <:+: text.toList := by
  have refused : Settings.ofValue (.list []) =
    .error (.unparsable "top level must be a mapping") := rfl
  obtain ⟨same, told⟩ := localText_exact (.document refused)
  obtain ⟨text, japanese, _, new, detail⟩ := told .ja
  exact ⟨refused, same, text, japanese, new .ja, detail _ rfl⟩

end Raising

end Problem
end LineBudget
