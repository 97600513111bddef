import LineBudget.Message.Argument
import LineBudget.Proofs.Number.Digits
import Mathlib.Data.List.Infix

/-! Messages with their places filled. In both languages the arguments stand in the places of a
message one after the other and each as it is, whatever it holds, and both languages refuse the same
arguments. -/
namespace LineBudget.Message

/-- What stands where an argument is to be put. -/
def placeMark : List Char := ['\x7b', '\x7d']

/-- A text whose places are filled in order. Every place takes one text, and what was put into a
place is not looked at again. -/
inductive Filled : List Char → List String → List Char → Prop
  | rest {text : List Char} (plain : ¬ placeMark <:+: text) : Filled text [] text
  | place {before behind result : List Char} {argument : String} {texts : List String}
      (plain : ¬ placeMark <:+: before) (filled : Filled behind texts result) :
      Filled (before ++ placeMark ++ behind) (argument :: texts)
        (before ++ argument.toList ++ result)

variable {text before behind result : List Char} {texts more : List String} {index : Nat}

section Segments

theorem placeMark_prefix_iff {c : Char} {rest : List Char} :
    placeMark <+: c :: rest ↔ c = '\x7b' ∧ rest.head? = some '\x7d' := by
  rw [placeMark, List.cons_prefix_cons, eq_comm]
  cases rest with
  | nil => simp
  | cons d rest => simp [List.cons_prefix_cons, eq_comm]

theorem segments_skip {c : Char} {rest : List Char} (free : ¬ placeMark <+: c :: rest) :
    segments (c :: rest) = match segments rest with
      | [] => [[c]]
      | first :: others => (c :: first) :: others := by
  apply segments.eq_3
  rintro rest rfl rfl
  exact free (placeMark_prefix_iff.mpr ⟨rfl, rfl⟩)

theorem segments_plain (plain : ¬ placeMark <:+: text) : segments text = [text] := by
  induction text with
  | nil => rfl
  | cons c rest ih =>
    rw [List.infix_cons_iff, not_or] at plain
    rw [segments_skip plain.1, ih plain.2]

theorem segments_place (plain : ¬ placeMark <:+: before) :
    segments (before ++ placeMark ++ behind) = before :: segments behind := by
  induction before with
  | nil => rfl
  | cons c rest ih =>
    rw [List.infix_cons_iff, not_or, placeMark_prefix_iff] at plain
    have free : ¬ placeMark <+: c :: (rest ++ placeMark ++ behind) := by
      rw [placeMark_prefix_iff]
      cases rest with
      | nil => simp [placeMark]
      | cons d rest => simpa using plain.1
    rw [List.cons_append, List.cons_append, segments_skip free, ih plain.2]

/-- A text has no place, or it has a first one. -/
theorem plain_or_place (text : List Char) : ¬ placeMark <:+: text ∨
    ∃ before behind, ¬ placeMark <:+: before ∧ text = before ++ placeMark ++ behind := by
  induction text with
  | nil => exact .inl (by decide)
  | cons c rest ih =>
    by_cases here : placeMark <+: c :: rest
    · obtain ⟨behind, same⟩ := here
      exact .inr ⟨[], behind, by decide, same.symm⟩
    · rcases ih with plain | ⟨before, behind, plain, rfl⟩
      · exact .inl (List.infix_cons_iff.not.mpr (not_or.mpr ⟨here, plain⟩))
      · refine .inr ⟨c :: before, behind, ?_, rfl⟩
        rw [List.infix_cons_iff, not_or]
        refine ⟨fun early => here (early.trans ?_), plain⟩
        simp [List.append_assoc]

theorem segments_ne_nil (text : List Char) : segments text ≠ [] := by
  rcases plain_or_place text with plain | ⟨before, behind, plain, rfl⟩
  · simp [segments_plain plain]
  · simp only [segments_place plain, ne_eq, reduceCtorEq, not_false_eq_true]

end Segments

section Fill

theorem Filled.length (filled : Filled text texts result) :
    (segments text).length = texts.length + 1 := by
  induction filled with
  | rest plain => rw [segments_plain plain, List.length_singleton, List.length_nil]
  | place plain _ ih => rw [segments_place plain, List.length_cons, List.length_cons, ih]

/-- Arguments behind those that have a place are left out. -/
theorem Filled.fill_eq (filled : Filled text texts result) (more : List String) (index : Nat) :
    fill index (segments text) (texts ++ more) = .ok result := by
  induction filled generalizing index with
  | rest plain => rw [segments_plain plain, fill]
  | @place _ behind _ _ _ plain filled ih =>
    obtain ⟨first, others, split⟩ := List.exists_cons_of_length_eq_add_one filled.length
    rw [split] at ih
    rw [segments_place plain, split, List.cons_append, fill, ih]
    · rfl
    · simp

theorem Filled.unique {other : List Char} (filled : Filled text texts result)
    (filled' : Filled text texts other) : result = other := by
  exact Except.ok.inj ((filled.fill_eq [] 0).symm.trans (filled'.fill_eq [] 0))

theorem Filled.infix {argument : String} (filled : Filled text texts result)
    (member : argument ∈ texts) : argument.toList <:+: result := by
  induction filled with
  | rest => cases member
  | place _ _ ih =>
    rcases List.mem_cons.mp member with rfl | later
    · exact ⟨_, _, rfl⟩
    · exact (ih later).trans (List.suffix_append _ _).isInfix

theorem Filled.nil_eq (filled : Filled text [] result) : text = result := by
  cases filled with
  | rest => rfl

/-- A text that does not start with a place keeps its first character. -/
theorem Filled.head? {c : Char} (filled : Filled text texts result) (start : text.head? = some c)
    (unmarked : c ≠ '\x7b') : result.head? = some c := by
  cases filled with
  | rest => exact start
  | @place before =>
    cases before with
    | nil =>
      rw [List.nil_append, placeMark] at start
      exact absurd (Option.some.inj start).symm unmarked
    | cons => exact start

/-- A text can be filled with as many texts as it has places. -/
theorem exists_filled (count : (segments text).length = texts.length + 1) :
    ∃ result, Filled text texts result := by
  induction texts generalizing text with
  | nil =>
    rcases plain_or_place text with plain | ⟨before, behind, plain, rfl⟩
    · exact ⟨text, .rest plain⟩
    · rw [segments_place plain, List.length_cons] at count
      exact absurd (List.length_eq_zero_iff.mp (Nat.succ.inj count)) (segments_ne_nil behind)
  | cons argument texts ih =>
    rcases plain_or_place text with plain | ⟨before, behind, plain, rfl⟩
    · simp [segments_plain plain] at count
    · rw [segments_place plain, List.length_cons, List.length_cons] at count
      obtain ⟨result, filled⟩ := ih (Nat.succ.inj count)
      exact ⟨_, .place plain filled⟩

/-- Without enough arguments, the first place that has none is reported. -/
theorem fill_short {parts : List (List Char)} (short : texts.length + 1 < parts.length) :
    fill index parts texts = .error ⟨index + texts.length⟩ := by
  induction texts generalizing index parts with
  | nil => match parts, short with
    | _ :: _ :: _, _ => rfl
  | cons argument texts ih => match parts, short with
    | first :: second :: others, short =>
      rw [List.length_cons] at short
      rw [fill, ih (Nat.succ_lt_succ_iff.mp short), List.length_cons]
      · simp only [Except.map, Nat.add_assoc, Nat.add_comm 1]
      · simp

end Fill

section Arguments
variable {arguments : List Argument} {text : String} {n : Nat}

theorem length_leadingTexts_le (arguments : List Argument) :
    (leadingTexts arguments).length ≤ arguments.length := by
  induction arguments with
  | nil => exact Nat.le_refl 0
  | cons argument rest ih => cases said : argument.text? <;> simp [leadingTexts, said, ih]

theorem leadingTexts_take (enough : n ≤ (leadingTexts arguments).length) :
    (arguments.take n).map Argument.text? = ((leadingTexts arguments).take n).map some := by
  induction arguments generalizing n with
  | nil => simp [leadingTexts]
  | cons argument rest ih =>
    cases n with
    | zero => rfl
    | succ n =>
      cases said : argument.text? with
      | none => simp [leadingTexts, said] at enough
      | some text =>
        simp only [leadingTexts, said, List.length_cons, Nat.add_le_add_iff_right] at enough
        simp [leadingTexts, said, ih enough]

theorem untold_iff : (∃ a ∈ arguments.take n, a.text? = none) ↔
    (leadingTexts arguments).length < min n arguments.length := by
  induction arguments generalizing n with
  | nil => simp [leadingTexts]
  | cons argument rest ih =>
    cases n with
    | zero => simp
    | succ n =>
      cases said : argument.text? with
      | none => simp [leadingTexts, said]
      | some text =>
        simp only [List.take_succ_cons, List.mem_cons, exists_eq_or_imp, said, reduceCtorEq,
          false_or, leadingTexts, List.length_cons, ih]
        omega

theorem told_iff : (∀ a ∈ arguments, a.text? ≠ none) ↔
    arguments.length ≤ (leadingTexts arguments).length := by
  have untold : (∃ a ∈ arguments.take arguments.length, a.text? = none) ↔
      (leadingTexts arguments).length < min arguments.length arguments.length := untold_iff
  rw [List.take_length, Nat.min_self] at untold
  rw [← Nat.not_lt, ← untold]
  simp only [not_exists, not_and, ne_eq]

/-- There are enough texts for the places, or the first place without one says why. -/
theorem formatWith_cases (text : String) (given : arguments ≠ []) :
    let texts := leadingTexts arguments
    (places text ≤ texts.length ∧ ∃ result, formatWith text arguments = .ok result ∧
      Filled text.toList (texts.take (places text)) result.toList) ∨
    texts.length < places text ∧ formatWith text arguments =
      .error (if texts.length < arguments.length then .tooLong else .missing ⟨texts.length⟩) := by
  intro texts
  have counted : (segments text.toList).length = places text + 1 :=
    (Nat.succ_pred_eq_of_pos (List.length_pos_iff.mpr (segments_ne_nil _))).symm
  have opened : formatWith text arguments =
      ((fill 0 (segments text.toList) texts).map String.ofList).mapError fun e =>
        if texts.length < arguments.length then .tooLong else .missing e := by
    rw [formatWith, if_neg (by simpa using given)]
  rcases Nat.lt_or_ge texts.length (places text) with short | enough
  · have refused : fill 0 (segments text.toList) texts = .error ⟨0 + texts.length⟩ :=
      fill_short (by omega)
    rw [Nat.zero_add] at refused
    exact .inr ⟨short, by rw [opened, refused]; rfl⟩
  · obtain ⟨result, filled⟩ : ∃ result, Filled text.toList (texts.take (places text)) result :=
      exists_filled (by rw [counted, List.length_take_of_le enough])
    have taken := filled.fill_eq (texts.drop (places text)) 0
    rw [List.take_append_drop] at taken
    refine .inl ⟨enough, String.ofList result, by rw [opened, taken]; rfl, ?_⟩
    rwa [String.toList_ofList]

/-- Whether arguments are refused hangs on the number of places only. -/
theorem formatWith_error_iff {e : Unfilled} : formatWith text arguments = .error e ↔
    arguments ≠ [] ∧ (leadingTexts arguments).length < places text ∧
      e = if (leadingTexts arguments).length < arguments.length then .tooLong
        else .missing ⟨(leadingTexts arguments).length⟩ := by
  by_cases given : arguments = []
  · simp [given, formatWith]
  rcases formatWith_cases text given with ⟨enough, result, told, _⟩ | ⟨short, refused⟩
  · simp [told, Nat.not_lt.mpr enough]
  · simp [refused, given, short, eq_comm]

end Arguments

/-- What becomes of a message with arguments. It stays as it is without any. Otherwise it takes one
for each of its places, unless there are too few, or one of those that it takes has no text. -/
structure Takes (text : String) (arguments : List Argument) (answer : Except Unfilled String) :
    Prop where
  bare : arguments = [] → answer = .ok text
  missing_iff : (∃ e, answer = .error (.missing e)) ↔
    (0 < arguments.length ∧ arguments.length < places text) ∧ ∀ a ∈ arguments, a.text? ≠ none
  tooLong_iff : answer = .error .tooLong ↔ ∃ a ∈ arguments.take (places text), a.text? = none
  filled : arguments ≠ [] → places text ≤ arguments.length → ∀ texts : List String,
    (arguments.take (places text)).map Argument.text? = texts.map some →
      ∃ result, answer = .ok result ∧
        ∀ other, Filled text.toList texts other ↔ other = result.toList

theorem formatWith_takes (text : String) (arguments : List Argument) :
    Takes text arguments (formatWith text arguments) where
  bare none := by
    rw [none]
    rfl
  missing_iff := by
    rw [told_iff]
    constructor
    · rintro ⟨e, refused⟩
      obtain ⟨given, short, reason⟩ := formatWith_error_iff.mp refused
      have positive := List.length_pos_iff.mpr given
      split at reason
      case isTrue => cases reason
      case isFalse all => omega
    · rintro ⟨⟨positive, short⟩, all⟩
      have bound := length_leadingTexts_le arguments
      refine ⟨⟨(leadingTexts arguments).length⟩, formatWith_error_iff.mpr ⟨?_, by omega, ?_⟩⟩
      · exact List.length_pos_iff.mp positive
      · rw [if_neg (Nat.not_lt.mpr all)]
  tooLong_iff := by
    rw [untold_iff, formatWith_error_iff]
    constructor
    · rintro ⟨_, short, reason⟩
      split at reason
      case isTrue untold => omega
      case isFalse => cases reason
    · intro untold
      refine ⟨List.length_pos_iff.mp (by omega), by omega, ?_⟩
      rw [if_pos (by omega)]
  filled given enough texts written := by
    rcases formatWith_cases text given with ⟨enough, result, told, filled⟩ | ⟨short, _⟩
    · rw [leadingTexts_take enough] at written
      rw [List.map_injective_iff.mpr (fun _ _ => Option.some.inj) written] at filled
      exact ⟨result, told, fun other => ⟨(·.unique filled), fun same => same ▸ filled⟩⟩
    -- A place without a text has an argument that has none.
    · obtain ⟨a, member, none⟩ : ∃ a ∈ arguments.take (places text), a.text? = none :=
        untold_iff.mpr (by omega)
      have there := List.mem_map_of_mem (f := Argument.text?) member
      rw [written, none] at there
      simp at there

theorem catalogue_keys : (catalogue .en).map Prod.fst = (catalogue .ja).map Prod.fst := by
  decide +kernel

theorem lookup_map {α β : Type} (f : α → β) (entries : List (String × α)) (key : String) :
    (entries.map fun e => (e.1, f e.2)).lookup key = (entries.lookup key).map f := by
  induction entries with
  | nil => rfl
  | cons e rest ih =>
    obtain ⟨other, value⟩ := e
    simp only [List.map_cons, List.lookup_cons]
    cases key == other
    · exact ih
    · rfl

theorem places_ofList (text : List Char) :
    places (String.ofList text) = (segments text).length - 1 := by
  rw [places, String.toList_ofList]

theorem catalogue_places (key : String) :
    ((catalogue .en).lookup key).map places = ((catalogue .ja).lookup key).map places := by
  have same : (catalogue .en).map (fun e => (e.1, places e.2)) =
      (catalogue .ja).map fun e => (e.1, places e.2) := by
    simp only [catalogue, english, japanese, List.map_cons, List.map_nil]
    -- The characters of a literal are at hand, and its octets need not be decoded.
    repeat rw [places_ofList]
    rfl
  rw [← lookup_map, ← lookup_map, same]

/-- A key that is no key of the catalogue stands for itself, whatever its arguments. A message takes
its arguments as they are, as far as they have a text. Both languages have the same keys and the same
number of places in each message, so that they refuse the same arguments for the same reason. -/
theorem translate_exact (key : String) (arguments : List Argument) :
    (∀ locale, key ∉ (catalogue locale).map Prod.fst →
      translate locale key arguments = .ok key) ∧
    (∀ locale text, (catalogue locale).lookup key = some text →
      Takes text arguments (translate locale key arguments)) ∧
    (∀ e, translate .en key arguments = .error e ↔ translate .ja key arguments = .error e) ∧
    (catalogue .en).map Prod.fst = (catalogue .ja).map Prod.fst ∧
    ∀ key, ((catalogue .en).lookup key).map places = ((catalogue .ja).lookup key).map places := by
  have takes (locale : Locale) (text : String) (found : (catalogue locale).lookup key = some text) :
      translate locale key arguments = formatWith text arguments := by
    rw [translate, found]
  refine ⟨?_, ?_, ?_, catalogue_keys, catalogue_places⟩
  · intro locale unknown
    have none : (catalogue locale).lookup key = none := by
      rw [List.lookup_eq_none_iff]
      intro e member
      rw [bne_iff_ne]
      rintro rfl
      exact unknown (List.mem_map_of_mem member)
    rw [translate, none]
  · intro locale text found
    rw [takes locale text found]
    exact formatWith_takes text arguments
  · intro e
    have same := catalogue_places key
    cases found : (catalogue .en).lookup key with
    | none =>
      rw [found, Option.map_none, eq_comm, Option.map_eq_none_iff] at same
      simp only [translate, found, same]
    | some text =>
      rw [found, Option.map_some, eq_comm, Option.map_eq_some_iff] at same
      obtain ⟨other, found', same⟩ := same
      rw [takes _ _ found, takes _ _ found', formatWith_error_iff, formatWith_error_iff, same]

/-- The place of a message cannot take an integer with a digit too many, in either language. The only
argument is there, and is not put in. -/
theorem translate_exact_beyond :
    let argument : Argument := .int (10 ^ Number.maxDigits : Nat)
    (((catalogue .en).lookup "err.scan").map places = some 1 ∧
      translate .en "err.scan" [argument] = .error .tooLong) ∧
    ((catalogue .ja).lookup "err.scan").map places = some 1 ∧
      translate .ja "err.scan" [argument] = .error .tooLong := by
  intro argument
  have unwritten : argument.text? = none := by
    have failed : Number.isWritable (10 ^ Number.maxDigits : Nat) = false := by
      rw [← Bool.not_eq_true, Number.isWritable_iff, Int.natAbs_natCast]
      exact Nat.lt_irrefl _
    simp only [argument, Argument.text?, failed, Bool.false_eq_true, if_false]
  have places (locale : Locale) :
      ((catalogue locale).lookup "err.scan").map places = some 1 := by
    cases locale <;> decide +kernel
  have refused (locale : Locale) : translate locale "err.scan" [argument] = .error .tooLong := by
    obtain ⟨text, found, one⟩ := Option.map_eq_some_iff.mp (places locale)
    rw [translate, found]
    apply (formatWith_takes text [argument]).tooLong_iff.mpr
    rw [one]
    exact ⟨argument, List.mem_singleton_self _, unwritten⟩
  exact ⟨⟨places .en, refused .en⟩, places .ja, refused .ja⟩

example : translate .en "err.unexpected" [.text "\x7b\x7d", .int (-2), .nothing] =
    .ok "Unexpected error (\x7b\x7d): -2" := by decide +kernel

end LineBudget.Message
