import LineBudget.Proofs.Config.Failures

/-! Settings from the value of a document: which values are accepted, what they are read as, and how
the others are refused. A list of patterns has to be a list of texts, yet whatever counts as blank in
its place is taken for an empty one. -/
namespace LineBudget.Config

/-- The patterns that the value of a key gives: none without the key or without a value, and else
the texts of a list of texts. -/
inductive ListGiven : Option Value → List String → Prop
  | absent : ListGiven none []
  | null : ListGiven (some .null) []
  | texts (patterns : List String) : ListGiven (some (.list (patterns.map .text))) patterns

/-- The truth value that the value of a key gives, true without the key. -/
inductive FlagGiven : Option Value → Bool → Prop
  | absent : FlagGiven none true
  | given (flag : Bool) : FlagGiven (some (.bool flag)) flag

/-- Settings with the values that a document gives at its top level and in its rules, and with the
defaults for the keys that it leaves out. -/
structure States (entries rules : List (Value × Value)) (ignore : Option Value) (s : Settings) :
    Prop where
  file : s.rules.maxFileLines = (Value.get? rules "max_lines_per_file").getD (.int 300)
  directory :
    s.rules.maxDirectoryLines = (Value.get? rules "max_lines_per_directory").getD (.int 2000)
  percentage : s.rules.warningThreshold = (Value.get? rules "warning_threshold").getD (.int 10)
  mode : s.countMode = (Value.get? entries "count_mode").getD (.text "all")
  ignore : ListGiven ignore s.ignore
  defaultExcludes : FlagGiven (Value.get? entries "default_excludes") s.defaultExcludes
  language : s.language = (Value.get? entries "language").getD (.text "en")

/-- A mapping with a mapping of rules. -/
def Ruled (value : Value) (entries rules : List (Value × Value)) : Prop :=
  value = .map entries ∧ Value.get? entries "rules" = some (.map rules)

/-- An empty document, or a mapping without a mapping of rules. -/
def Ruleless (value : Value) : Prop :=
  value = .null ∨ ∃ entries, value = .map entries ∧
    ∀ rules, Value.get? entries "rules" ≠ some (.map rules)

/-- A value that is neither nothing nor a mapping. -/
def Unmapped (value : Value) : Prop := value ≠ .null ∧ ∀ entries, value ≠ .map entries

/-- A blank value that is neither missing nor an empty list. -/
inductive Unlisted : Value → Prop
  | no : Unlisted (.bool false)
  | zero : Unlisted (.int 0)
  | zeroFloat {number : Number.Binary64} (zero : number.isZero = true) : Unlisted (.float number)
  | text : Unlisted (.text "")
  | map : Unlisted (.map [])
  | octets : Unlisted (.octets [])
  | set : Unlisted (.set [])

/-- A document that gives settings, every value in it of a kind that it should have. -/
def Stated (value : Value) (s : Settings) : Prop :=
  ∃ entries rules, Ruled value entries rules ∧
    States entries rules (Value.get? entries "ignore") s

/-- A document that gives settings, but for a blank value in the place of its patterns, which are
taken to be missing. -/
def Overlooked (value : Value) (s : Settings) : Prop :=
  ∃ entries rules unlisted, Ruled value entries rules ∧
    Value.get? entries "ignore" = some unlisted ∧ Unlisted unlisted ∧ States entries rules none s

/-- A value in the place of the patterns that gives none and is not overlooked either. -/
def Unreadable (value : Value) : Prop :=
  ¬ Unlisted value ∧ ∀ patterns, ¬ ListGiven (some value) patterns

/-- Why a document is refused. Of several reasons the first one counts. -/
inductive Refused (value : Value) : ConfigError → Prop
  | shape (unmapped : Unmapped value) :
    Refused value (.unparsable "top level must be a mapping")
  | rules (ruleless : Ruleless value) : Refused value .rulesRequired
  | ignore {entries rules : List (Value × Value)} {patterns : Value}
    (ruled : Ruled value entries rules) (found : Value.get? entries "ignore" = some patterns)
    (unreadable : Unreadable patterns) :
    Refused value (.unparsable "\"ignore\" must be a list of strings")
  | defaultExcludes {entries rules : List (Value × Value)} {flag : Value}
    (ruled : Ruled value entries rules)
    (readable : ∀ patterns, Value.get? entries "ignore" = some patterns → ¬ Unreadable patterns)
    (found : Value.get? entries "default_excludes" = some flag) (other : ∀ b, flag ≠ .bool b) :
    Refused value (.unparsable "\"default_excludes\" must be a boolean")

variable {value : Value} {entries rules : List (Value × Value)} {s : Settings}
  {patterns : List String} {flag : Bool} {e : ConfigError}

theorem texts?_eq_some {items : List Value} :
    Value.texts? items = some patterns ↔ items = patterns.map .text := by
  induction items generalizing patterns with
  | nil => cases patterns <;> simp [Value.texts?]
  | cons item rest ih =>
    cases item with
    | text t =>
      have step : Value.texts? (.text t :: rest) = (Value.texts? rest).map (t :: ·) := by
        simp only [Value.texts?, List.mapM_cons]
        cases List.mapM (m := Option) _ rest <;> rfl
      rw [step, Option.map_eq_some_iff]
      cases patterns <;> simp [ih, and_comm]
    | _ => cases patterns <;> simp [Value.texts?]

theorem listOfTexts?_eq_some :
    listOfTexts? value = some patterns ↔ value = .list (patterns.map .text) := by
  cases value with
  | list items => simp [listOfTexts?, texts?_eq_some]
  | _ => simp [listOfTexts?]

theorem unlisted_iff : Unlisted value ↔
    value.isBlank = true ∧ value ≠ .null ∧ value ≠ .list [] := by
  constructor
  · intro unlisted
    cases unlisted with
    | zeroFloat zero => exact ⟨zero, nofun, nofun⟩
    | _ => exact ⟨rfl, nofun, nofun⟩
  · rintro ⟨blank, missing, empty⟩
    cases value with
    | null => contradiction
    | bool flag =>
      cases flag with
      | false => exact .no
      | true => cases blank
    | int number =>
      obtain rfl : number = 0 := of_decide_eq_true blank
      exact .zero
    | float number => exact .zeroFloat blank
    | text written =>
      obtain rfl := String.isEmpty_iff.mp blank
      exact .text
    | list items =>
      obtain rfl := List.isEmpty_iff.mp blank
      contradiction
    | map entries =>
      obtain rfl := List.isEmpty_iff.mp blank
      exact .map
    | octets bytes =>
      obtain rfl := List.isEmpty_iff.mp blank
      exact .octets
    | set members =>
      obtain rfl := List.isEmpty_iff.mp blank
      exact .set
    | moment | pair => cases blank

theorem not_unlisted (filled : value.isBlank = false) : ¬ Unlisted value := by
  intro unlisted
  cases filled.symm.trans (unlisted_iff.mp unlisted).1

/-- No patterns are given by a blank value. -/
theorem ListGiven.eq_nil (blank : value.isBlank = true) (given : ListGiven (some value) patterns) :
    patterns = [] := by
  cases given with
  | null => rfl
  | texts =>
    cases patterns with
    | nil => rfl
    | cons => cases blank

theorem Unlisted.not_listGiven (unlisted : Unlisted value) :
    ¬ ListGiven (some value) patterns := by
  obtain ⟨blank, missing, empty⟩ := unlisted_iff.mp unlisted
  intro given
  obtain rfl := given.eq_nil blank
  cases given with
  | null => exact missing rfl
  | texts => exact empty rfl

theorem listGiven_none : ListGiven none patterns ↔ patterns = [] := by
  constructor
  · intro given
    cases given
    rfl
  · rintro rfl
    exact .absent

/-- Where the value of the patterns is not blank, only a list of texts gives patterns. -/
theorem listGiven_filled (filled : value.isBlank = false) :
    ListGiven (some value) patterns ↔ listOfTexts? value = some patterns := by
  rw [listOfTexts?_eq_some]
  constructor
  · intro given
    cases given with
    | null => cases filled
    | texts => rfl
  · rintro rfl
    exact .texts patterns

/-- A blank value stands for an empty list, or it is overlooked. -/
theorem listGiven_blank (blank : value.isBlank = true) :
    ListGiven (some value) [] ∨ Unlisted value := by
  by_cases missing : value = .null
  · subst missing
    exact .inl .null
  · by_cases empty : value = .list []
    · subst empty
      exact .inl (.texts [])
    · exact .inr (unlisted_iff.mpr ⟨blank, missing, empty⟩)

theorem unreadable_iff :
    Unreadable value ↔ value.isBlank = false ∧ listOfTexts? value = none := by
  cases blank : value.isBlank with
  | true =>
    constructor
    · rintro ⟨noticed, ungiven⟩
      exact ((listGiven_blank blank).elim (ungiven []) noticed).elim
    · rintro ⟨filled, _⟩
      cases filled
  | false =>
    rw [Unreadable, and_iff_right (not_unlisted blank), and_iff_right rfl,
      Option.eq_none_iff_forall_ne_some]
    simp only [listGiven_filled blank, ne_eq]

theorem ignoreOfEntries_eq_ok : ignoreOfEntries entries = .ok patterns ↔
    ListGiven (Value.get? entries "ignore") patterns ∨
      ∃ value, Value.get? entries "ignore" = some value ∧ Unlisted value ∧ patterns = [] := by
  rw [ignoreOfEntries]
  cases Value.get? entries "ignore" with
  | none =>
    rw [listGiven_none, Except.ok.injEq, eq_comm]
    simp only [reduceCtorEq, false_and, exists_false, or_false]
  | some value =>
    simp only [Option.some.injEq, exists_eq_left']
    cases blank : value.isBlank with
    | true =>
      simp only [if_true, Except.ok.injEq]
      constructor
      · rintro rfl
        exact (listGiven_blank blank).imp_right fun unlisted => ⟨unlisted, rfl⟩
      · rintro (given | ⟨_, none⟩)
        · exact (given.eq_nil blank).symm
        · exact none.symm
    | false =>
      simp only [Bool.false_eq_true, if_false, not_unlisted blank, false_and, or_false,
        listGiven_filled blank]
      cases listOfTexts? value <;> simp

theorem ignoreOfEntries_eq_error : ignoreOfEntries entries = .error e ↔
    (∃ value, Value.get? entries "ignore" = some value ∧ Unreadable value) ∧
      e = .unparsable "\"ignore\" must be a list of strings" := by
  rw [ignoreOfEntries]
  cases Value.get? entries "ignore" with
  | none => simp
  | some value =>
    simp only [Option.some.injEq, exists_eq_left', unreadable_iff]
    cases value.isBlank with
    | true => simp
    | false =>
      cases listOfTexts? value with
      | none => simp [eq_comm]
      | some patterns => simp

theorem defaultExcludesOfEntries_eq_ok : defaultExcludesOfEntries entries = .ok flag ↔
    FlagGiven (Value.get? entries "default_excludes") flag := by
  rw [defaultExcludesOfEntries]
  constructor
  · intro read
    split at read
    case h_1 absent =>
      cases read
      exact absent ▸ .absent
    case h_2 found =>
      cases read
      exact found ▸ .given _
    case h_3 => cases read
  · intro given
    cases found : Value.get? entries "default_excludes" with
    | none =>
      rw [found] at given
      cases given
      rfl
    | some value =>
      rw [found] at given
      cases given
      rfl

theorem defaultExcludesOfEntries_eq_error : defaultExcludesOfEntries entries = .error e ↔
    (∃ value, Value.get? entries "default_excludes" = some value ∧ ∀ b, value ≠ .bool b) ∧
      e = .unparsable "\"default_excludes\" must be a boolean" := by
  rw [defaultExcludesOfEntries]
  cases Value.get? entries "default_excludes" with
  | none => simp
  | some value => cases value <;> simp [eq_comm]

/-- Settings as a document gives them, but for the patterns and the truth value. -/
def settingsWith (entries rules : List (Value × Value)) (ignore : List String)
    (defaultExcludes : Bool) : Settings where
  rules := Rules.ofEntries rules
  countMode := (Value.get? entries "count_mode").getD (.text "all")
  ignore
  defaultExcludes
  language := (Value.get? entries "language").getD (.text "en")

theorem states_iff {ignore : Option Value} : States entries rules ignore s ↔
    ListGiven ignore s.ignore ∧
      FlagGiven (Value.get? entries "default_excludes") s.defaultExcludes ∧
      settingsWith entries rules s.ignore s.defaultExcludes = s := by
  constructor
  · rintro ⟨file, directory, percentage, mode, listed, flag, language⟩
    refine ⟨listed, flag, ?_⟩
    obtain ⟨⟨_, _, _⟩, _, _, _, _⟩ := s
    dsimp only at file directory percentage mode language
    subst file directory percentage mode language
    rfl
  · rintro ⟨listed, flag, same⟩
    refine ⟨?_, ?_, ?_, ?_, listed, flag, ?_⟩
    · exact (congrArg (·.rules.maxFileLines) same).symm
    · exact (congrArg (·.rules.maxDirectoryLines) same).symm
    · exact (congrArg (·.rules.warningThreshold) same).symm
    · exact (congrArg (·.countMode) same).symm
    · exact (congrArg (·.language) same).symm

/-- Behind the rules, the patterns are looked at first, and then the truth value. -/
theorem ofValue_ruled (ruled : Ruled value entries rules) : Settings.ofValue value =
    (ignoreOfEntries entries >>= fun patterns => defaultExcludesOfEntries entries >>= fun flag =>
      .ok (settingsWith entries rules patterns flag)) := by
  obtain ⟨rfl, found⟩ := ruled
  simp only [Settings.ofValue, topLevel, bind, Except.bind, found]
  rfl

theorem ofValue_ruleless (ruleless : Ruleless value) :
    Settings.ofValue value = .error .rulesRequired := by
  rcases ruleless with rfl | ⟨entries, rfl, missing⟩
  · rfl
  · unfold Settings.ofValue topLevel
    dsimp only [bind, Except.bind]
    split
    case h_1 rules found => exact absurd found (missing rules)
    case h_2 => rfl

theorem ofValue_unmapped (unmapped : Unmapped value) :
    Settings.ofValue value = .error (.unparsable "top level must be a mapping") := by
  cases value with
  | null => exact absurd rfl unmapped.1
  | map entries => exact absurd rfl (unmapped.2 entries)
  | _ => rfl

/-- A document has rules, or it is without rules, or it is no mapping. -/
theorem value_cases (value : Value) :
    (∃ entries rules, Ruled value entries rules) ∨ Ruleless value ∨ Unmapped value := by
  cases value with
  | null => exact .inr (.inl (.inl rfl))
  | map entries =>
    by_cases ruled : ∃ rules, Value.get? entries "rules" = some (.map rules)
    · obtain ⟨rules, found⟩ := ruled
      exact .inl ⟨entries, rules, rfl, found⟩
    · rw [not_exists] at ruled
      exact .inr (.inl (.inr ⟨entries, rfl, ruled⟩))
  | _ => exact .inr (.inr ⟨nofun, nofun⟩)

theorem ofValue_ruled_eq_ok (ruled : Ruled value entries rules) :
    Settings.ofValue value = .ok s ↔ States entries rules (Value.get? entries "ignore") s ∨
      ∃ unlisted, Value.get? entries "ignore" = some unlisted ∧ Unlisted unlisted ∧
        States entries rules none s := by
  simp only [ofValue_ruled ruled, bind_eq_ok, ignoreOfEntries_eq_ok,
    defaultExcludesOfEntries_eq_ok, states_iff, Except.ok.injEq]
  constructor
  · rintro ⟨patterns, listed | ⟨unlisted, found, blank, rfl⟩, flag, given, rfl⟩
    · exact .inl ⟨listed, given, rfl⟩
    · exact .inr ⟨unlisted, found, blank, .absent, given, rfl⟩
  · rintro (⟨listed, given, same⟩ | ⟨unlisted, found, blank, listed, given, same⟩)
    · exact ⟨s.ignore, .inl listed, s.defaultExcludes, given, same⟩
    · have empty := listGiven_none.mp listed
      exact ⟨s.ignore, .inr ⟨unlisted, found, blank, empty⟩, s.defaultExcludes, given, same⟩

theorem Ruled.not_ruleless (ruled : Ruled value entries rules) : ¬ Ruleless value := by
  obtain ⟨rfl, found⟩ := ruled
  rintro (none | ⟨_, same, missing⟩)
  · cases none
  · cases same
    exact missing rules found

theorem Unmapped.not_ruleless (unmapped : Unmapped value) : ¬ Ruleless value := by
  rintro (none | ⟨entries, same, _⟩)
  · exact unmapped.1 none
  · exact unmapped.2 entries same

theorem Ruled.not_unmapped (ruled : Ruled value entries rules) : ¬ Unmapped value :=
  fun unmapped => unmapped.2 entries ruled.1

theorem ofValue_ruled_eq_error (ruled : Ruled value entries rules) :
    Settings.ofValue value = .error e ↔ Refused value e := by
  have readable (patterns : List String) (read : ignoreOfEntries entries = .ok patterns) :
      ∀ value, Value.get? entries "ignore" = some value → ¬ Unreadable value := by
    intro value found unreadable
    cases read.symm.trans (ignoreOfEntries_eq_error.mpr ⟨⟨value, found, unreadable⟩, rfl⟩)
  rw [ofValue_ruled ruled, bind_eq_error, ignoreOfEntries_eq_error]
  constructor
  · rintro (⟨⟨patterns, found, unreadable⟩, rfl⟩ | ⟨patterns, read, failed⟩)
    · exact .ignore ruled found unreadable
    · rcases bind_eq_error.mp failed with unflagged | ⟨_, _, failed⟩
      · obtain ⟨⟨flag, found, other⟩, rfl⟩ := defaultExcludesOfEntries_eq_error.mp unflagged
        exact .defaultExcludes ruled (readable patterns read) found other
      · cases failed
  · intro refused
    cases refused with
    | shape unmapped => exact absurd unmapped ruled.not_unmapped
    | rules ruleless => exact absurd ruleless ruled.not_ruleless
    | ignore same found unreadable =>
      cases ruled.1.symm.trans same.1
      exact .inl ⟨⟨_, found, unreadable⟩, rfl⟩
    | defaultExcludes same readable found other =>
      cases ruled.1.symm.trans same.1
      right
      cases read : ignoreOfEntries entries with
      | error e =>
        obtain ⟨⟨value, found, unreadable⟩, _⟩ := ignoreOfEntries_eq_error.mp read
        exact absurd unreadable (readable value found)
      | ok patterns =>
        refine ⟨patterns, rfl, bind_eq_error.mpr (.inl ?_)⟩
        exact defaultExcludesOfEntries_eq_error.mpr ⟨⟨_, found, other⟩, rfl⟩

theorem ofValue_eq_ok :
    Settings.ofValue value = .ok s ↔ Stated value s ∨ Overlooked value s := by
  constructor
  · intro read
    rcases value_cases value with ⟨entries, rules, ruled⟩ | ruleless | unmapped
    · rcases (ofValue_ruled_eq_ok ruled).mp read with states | ⟨unlisted, found, blank, states⟩
      · exact .inl ⟨entries, rules, ruled, states⟩
      · exact .inr ⟨entries, rules, unlisted, ruled, found, blank, states⟩
    · cases (ofValue_ruleless ruleless).symm.trans read
    · cases (ofValue_unmapped unmapped).symm.trans read
  · rintro (⟨entries, rules, ruled, states⟩ |
      ⟨entries, rules, unlisted, ruled, found, blank, states⟩)
    · exact (ofValue_ruled_eq_ok ruled).mpr (.inl states)
    · exact (ofValue_ruled_eq_ok ruled).mpr (.inr ⟨unlisted, found, blank, states⟩)

theorem ofValue_eq_error : Settings.ofValue value = .error e ↔ Refused value e := by
  rcases value_cases value with ⟨entries, rules, ruled⟩ | ruleless | unmapped
  · exact ofValue_ruled_eq_error ruled
  · rw [ofValue_ruleless ruleless]
    constructor
    · intro same
      cases same
      exact .rules ruleless
    · intro refused
      cases refused with
      | shape unmapped => exact absurd ruleless unmapped.not_ruleless
      | rules => rfl
      | ignore ruled | defaultExcludes ruled => exact absurd ruleless ruled.not_ruleless
  · rw [ofValue_unmapped unmapped]
    constructor
    · intro same
      cases same
      exact .shape unmapped
    · intro refused
      cases refused with
      | shape => rfl
      | rules ruleless => exact absurd ruleless unmapped.not_ruleless
      | ignore ruled | defaultExcludes ruled => exact absurd unmapped ruled.not_unmapped

/-- The patterns of a document are not both given and overlooked. -/
theorem Stated.not_overlooked {s' : Settings} (stated : Stated value s) : ¬ Overlooked value s' := by
  rintro ⟨entries, _, unlisted, ⟨same, _⟩, found, overlooked, _⟩
  obtain ⟨_, _, ⟨rfl, _⟩, states⟩ := stated
  cases same
  exact overlooked.not_listGiven (found ▸ states.ignore)

/-- Missing rules have a code of their own, and every other reason is given in detail. -/
theorem Refused.code (refused : Refused value e) :
    e.code = "validation.rules_required" ∧ Ruleless value ∨
      e.code = "err.config_parse" ∧ ¬ Ruleless value ∧ ∃ detail, e.detail? = some detail := by
  cases refused with
  | shape unmapped => exact .inr ⟨rfl, unmapped.not_ruleless, _, rfl⟩
  | rules ruleless => exact .inl ⟨rfl, ruleless⟩
  | ignore ruled | defaultExcludes ruled => exact .inr ⟨rfl, ruled.not_ruleless, _, rfl⟩

/-- A document gives settings if it states them, and also if a blank value that is no list stands
for its patterns. Every other document is refused, for the first of the reasons that there are. -/
theorem ofValue_exact (value : Value) :
    (∀ s, Settings.ofValue value = .ok s ↔ Stated value s ∨ Overlooked value s) ∧
    (∀ s s', Stated value s → ¬ Overlooked value s') ∧
    (∀ e, Settings.ofValue value = .error e ↔ Refused value e) ∧
    ∀ e, Settings.ofValue value = .error e →
      e.code = "validation.rules_required" ∧ Ruleless value ∨
        e.code = "err.config_parse" ∧ ¬ Ruleless value ∧ ∃ detail, e.detail? = some detail := by
  refine ⟨?_, ?_, ?_, ?_⟩
  · intro s
    exact ofValue_eq_ok
  · intro s s' stated
    exact stated.not_overlooked
  · intro e
    exact ofValue_eq_error
  · intro e refused
    exact (ofValue_eq_error.mp refused).code

theorem ofValue_exact_null :
    Settings.ofValue (.map [(.text "rules", .map []), (.text "ignore", .null)]) = .ok {} ∧
      (∀ s, ¬ Overlooked (.map [(.text "rules", .map []), (.text "ignore", .null)]) s) ∧
      Refused (.list []) (.unparsable "top level must be a mapping") ∧ ¬ Ruleless (.list []) := by
  have stated : Stated (.map [(.text "rules", .map []), (.text "ignore", .null)]) {} :=
    ⟨_, _, ⟨rfl, rfl⟩, rfl, rfl, rfl, rfl, .null, .absent, rfl⟩
  obtain ⟨_, _, refused, codes⟩ := ofValue_exact (.list [])
  refine ⟨((ofValue_exact _).1 _).mpr (.inl stated), ?_, (refused _).mp rfl, ?_⟩
  · intro s
    exact (ofValue_exact _).2.1 {} s stated
  · rcases codes _ rfl with ⟨other, _⟩ | ⟨_, ruled, _⟩
    · exact absurd other (by decide)
    · exact ruled

/-- An empty text for the patterns is read as if they were missing, although it states nothing. -/
theorem ofValue_exact_blank :
    Settings.ofValue (.map [(.text "rules", .map []), (.text "ignore", .text "")]) = .ok {} ∧
      ¬ ∃ s, Stated (.map [(.text "rules", .map []), (.text "ignore", .text "")]) s := by
  refine ⟨rfl, ?_⟩
  rintro ⟨s, entries, rules, ⟨same, _⟩, states⟩
  cases same
  exact Unlisted.text.not_listGiven states.ignore

end LineBudget.Config
