import LineBudget.Console.Basic
import Mathlib

/-! Which texts a console shows as they are. A sign takes the place of two colons, and nothing that is
shown holds a tab or a hidden character, so that a text that was changed can be told by what it has
left. -/
namespace LineBudget.Console

/-- The codes between the colons of a text. `open?` is what was read since a colon that is open. -/
def codes : Option (List Char) → List Char → List (List Char)
  | _, [] => []
  | none, c :: rest => if c = ':' then codes (some []) rest else codes none rest
  | some held, c :: rest =>
    if c = ':' then held :: codes none rest
    else if Text.isBlank c then codes none rest
    else codes (some (held ++ [c])) rest

/-- What was read since a colon, the colon included. -/
def pending : Option (List Char) → List Char
  | none => []
  | some held => ':' :: held

/-- Nothing in a text is changed when the console shows it. -/
structure Keeps (console : Console) (text : List Char) : Prop where
  tab : '\t' ∉ text
  hidden : ∀ c ∈ text, isHidden c = false
  unknown : ∀ code ∈ codes none text, console.sign code = none

instance (console : Console) (text : List Char) : Decidable (console.Keeps text) :=
  decidable_of_iff ((text.all fun c => c ≠ '\t' && !isHidden c) ∧
      (codes none text).all fun code => (console.sign code).isNone) <| by
    simp only [List.all_eq_true, Bool.and_eq_true, decide_eq_true_iff, Bool.not_eq_true',
      Option.isNone_iff_eq_none]
    constructor
    · rintro ⟨plain, unknown⟩
      exact ⟨fun inside => (plain _ inside).1 rfl, fun c inside => (plain c inside).2, unknown⟩
    · rintro ⟨tab, hidden, unknown⟩
      exact ⟨fun c inside => ⟨fun same => tab (same ▸ inside), hidden c inside⟩, unknown⟩

/-- The number of codes that have a sign. -/
def known (console : Console) (open? : Option (List Char)) (text : List Char) : Nat :=
  (codes open? text).countP fun code => (console.sign code).isSome

variable {console : Console} {text front back held : List Char} {open? : Option (List Char)}
  {place : Nat} {lines : List (List Char)} {c : Char}

section Signs

theorem known_eq_zero : console.known open? text = 0 ↔
    ∀ code ∈ codes open? text, console.sign code = none := by
  simp [known, List.countP_eq_zero]

theorem withSigns_unknown (unknown : ∀ code ∈ codes open? text, console.sign code = none) :
    console.withSigns open? text = pending open? ++ text := by
  induction open?, text using codes.induct with
  | case1 open? => cases open? <;> simp [withSigns, pending]
  | case2 rest ih => simp_all [codes, withSigns, pending]
  | case3 c rest colon ih => simp_all [codes, withSigns, pending]
  | case4 held rest ih => simp_all [codes, withSigns, pending]
  | case5 held c rest colon blank ih => simp_all [codes, withSigns, pending]
  | case6 held c rest colon blank ih => simp_all [codes, withSigns, pending]

/-- Every sign takes the place of two colons. -/
theorem count_withSigns (closed : ∀ held ∈ open?, ':' ∉ held) :
    (console.withSigns open? text).count ':' + 2 * console.known open? text =
      (pending open? ++ text).count ':' := by
  induction open?, text using codes.induct with
  | case1 open? => cases open? <;> simp [withSigns, pending, known, codes]
  | case2 rest ih =>
    have later := ih (by simp)
    simpa [codes, withSigns, pending, known] using later
  | case3 c rest colon ih =>
    have later := ih (by simp)
    simpa [codes, withSigns, pending, known, colon, List.count_cons] using later
  | case4 held rest ih =>
    have later := ih (by simp)
    have plain : held.count ':' = 0 := List.count_eq_zero.mpr (closed held rfl)
    cases found : console.sign held with
    | none =>
      simp [codes, withSigns, pending, known, found] at later ⊢
      omega
    | some sign =>
      have fresh : sign.count ':' = 0 := List.count_eq_zero.mpr (console.sign_plain found)
      simp [codes, withSigns, pending, known, found, fresh] at later ⊢
      omega
  | case5 held c rest colon blank ih =>
    have later := ih (by simp)
    simp [codes, withSigns, pending, known, colon, blank] at later ⊢
    omega
  | case6 held c rest colon blank ih =>
    have later := ih (by simpa [Ne.symm colon] using closed)
    simpa [codes, withSigns, pending, known, colon, blank, List.count_cons] using later

end Signs

section Tabs

theorem withoutTabs_eq (plain : '\t' ∉ text) :
    console.withoutTabs place held text = held ++ text := by
  induction text generalizing place held with
  | nil => simp [withoutTabs]
  | cons c rest ih =>
    obtain ⟨other, later⟩ := List.ne_and_not_mem_of_not_mem_cons plain
    rw [withoutTabs, if_neg other.symm]
    split
    case isTrue newline => rw [ih later, newline, List.nil_append]
    case isFalse => rw [ih later, List.append_assoc, List.singleton_append]

/-- Only spaces are put in. -/
theorem mem_withoutTabs (member : c ∈ console.withoutTabs place held text) :
    c ∈ held ∨ (c ∈ text ∧ c ≠ '\t') ∨ c = ' ' := by
  induction text generalizing place held with
  | nil => exact .inl member
  | cons first rest ih =>
    rw [withoutTabs] at member
    split at member
    case isTrue tab =>
      simp only [List.mem_append, List.mem_cons, List.mem_replicate] at member
      grind
    case isFalse other =>
      split at member
      case isTrue newline =>
        simp only [List.mem_append, List.mem_cons] at member
        grind
      case isFalse =>
        have := ih member
        grind

theorem count_withoutTabs :
    (console.withoutTabs place held text).count ':' = (held ++ text).count ':' := by
  induction text generalizing place held with
  | nil => simp [withoutTabs]
  | cons c rest ih =>
    rw [withoutTabs]
    split
    case isTrue tab => simp [ih, tab, List.count_replicate]
    case isFalse =>
      split
      case isTrue newline => simp [ih, newline]
      case isFalse => rw [ih, List.append_assoc, List.singleton_append]

end Tabs

section Shown

/-- A tab or a hidden character is never shown. -/
theorem shown_plain (member : c ∈ console.shown text) : c ≠ '\t' ∧ isHidden c = false := by
  rcases mem_withoutTabs member with held | ⟨visible, other⟩ | rfl
  · cases held
  · exact ⟨other, by simpa using (List.mem_filter.mp visible).2⟩
  · decide

/-- What was shown lacks two colons for each sign. -/
theorem count_shown :
    (console.shown text).count ':' + 2 * console.known none text = text.count ':' := by
  have colons : (console.shown text).count ':' = (console.withSigns none text).count ':' := by
    rw [shown, count_withoutTabs, List.nil_append]
    exact List.count_filter (by decide)
  rw [colons]
  exact count_withSigns (by simp)

theorem shown_eq (keeps : console.Keeps text) : console.shown text = text := by
  have visible : text.filter (fun c => !isHidden c) = text :=
    List.filter_eq_self.mpr fun c member => by rw [keeps.hidden c member]; rfl
  rw [shown, withSigns_unknown keeps.unknown, pending, List.nil_append, visible,
    withoutTabs_eq keeps.tab, List.nil_append]

/-- What a console prints of lines, one after the other. -/
def printed (console : Console) (lines : List (List Char)) : List Char :=
  lines.flatMap fun line => console.shown line ++ ['\n']

/-- Lines as they are, one after the other. -/
def joined (lines : List (List Char)) : List Char := lines.flatMap (· ++ ['\n'])

theorem count_printed : (console.printed lines).count ':' +
    2 * (lines.map (console.known none)).sum = (joined lines).count ':' := by
  induction lines with
  | nil => rfl
  | cons line rest ih =>
    have first : (console.shown line).count ':' + 2 * console.known none line = line.count ':' :=
      count_shown
    simp only [printed, joined, List.flatMap_cons, List.count_append, List.map_cons,
      List.sum_cons] at ih ⊢
    omega

theorem printed_plain (member : c ∈ console.printed lines) : c ≠ '\t' ∧ isHidden c = false := by
  obtain ⟨line, _, inside⟩ := List.mem_flatMap.mp member
  rcases List.mem_append.mp inside with shown | newline
  · exact shown_plain shown
  · obtain rfl := List.mem_singleton.mp newline
    decide

/-- Lines that are printed are all shown as they are, or it can be told from the whole: neither what
is taken out of one line nor what is put in can be made up for by another. -/
theorem printed_eq_iff :
    console.printed lines = joined lines ↔ ∀ line ∈ lines, console.Keeps line := by
  constructor
  · intro same line member
    have plain {c : Char} (inside : c ∈ line) : c ≠ '\t' ∧ isHidden c = false := by
      have shown : c ∈ console.printed lines := by
        rw [same]
        exact List.mem_flatMap.mpr ⟨line, member, List.mem_append_left _ inside⟩
      exact printed_plain shown
    have colons : (console.printed lines).count ':' + _ = _ := count_printed
    rw [same, Nat.add_eq_left, Nat.mul_eq_zero, or_iff_right (by decide)] at colons
    refine ⟨fun inside => (plain inside).1 rfl, fun c inside => (plain inside).2, ?_⟩
    have none_known := List.sum_eq_zero_iff_forall_eq_nat.mp colons
    exact known_eq_zero.mp (none_known _ (List.mem_map_of_mem member))
  · intro keeps
    apply List.flatMap_congr
    intro line member
    rw [shown_eq (keeps line member)]

end Shown

section Parts

/-- A text that has no part in what a console changes, not even beside another text. -/
def Inert (text : List Char) : Prop := ∀ c ∈ text, c ≠ ':' ∧ c ≠ '\t' ∧ isHidden c = false

instance (text : List Char) : Decidable (Inert text) :=
  decidable_of_iff (text.all fun c => c ≠ ':' && c ≠ '\t' && !isHidden c) <| by
    simp [Inert, and_assoc]

theorem inert_append : Inert (front ++ back) ↔ Inert front ∧ Inert back := List.forall_mem_append

theorem codes_append (inert : Inert front) : codes none (front ++ text) = codes none text := by
  induction front with
  | nil => rfl
  | cons c rest ih =>
    obtain ⟨⟨other, _⟩, later⟩ := List.forall_mem_cons.mp inert
    rw [List.cons_append, codes, if_neg other, ih later]

theorem codes_eq_nil (inert : Inert text) : codes open? text = [] := by
  induction open?, text using codes.induct with
  | case1 open? => rw [codes]
  | case2 rest ih => simp [Inert] at inert
  | case3 c rest colon ih => simp_all [codes, Inert]
  | case4 held rest ih => simp [Inert] at inert
  | case5 held c rest colon blank ih => simp_all [codes, Inert]
  | case6 held c rest colon blank ih => simp_all [codes, Inert]

/-- No code goes on behind a blank. -/
theorem codes_append_space :
    codes open? (text ++ ' ' :: back) = codes open? text ++ codes none back := by
  have blank : Text.isBlank ' ' = true := by decide
  induction open?, text using codes.induct with
  | case1 open? => cases open? <;> simp [codes, blank]
  | case2 rest ih => simp_all [codes]
  | case3 c rest colon ih => simp_all [codes]
  | case4 held rest ih => simp_all [codes]
  | case5 held c rest colon blank ih => simp_all [codes]
  | case6 held c rest colon blank ih => simp_all [codes]

theorem keeps_inert (inert : Inert text) : console.Keeps text where
  tab inside := (inert _ inside).2.1 rfl
  hidden c inside := (inert c inside).2.2
  unknown := by simp [codes_eq_nil inert]

theorem keeps_append (inert : Inert front) :
    console.Keeps (front ++ text) ↔ console.Keeps text := by
  have first : console.Keeps front := keeps_inert inert
  constructor
  · rintro ⟨tab, hidden, unknown⟩
    rw [codes_append inert] at unknown
    exact ⟨fun inside => tab (List.mem_append_right _ inside),
      fun c inside => hidden c (List.mem_append_right _ inside), unknown⟩
  · rintro ⟨tab, hidden, unknown⟩
    refine ⟨?_, List.forall_mem_append.mpr ⟨first.hidden, hidden⟩, ?_⟩
    · exact List.not_mem_append first.tab tab
    · rwa [codes_append inert]

theorem keeps_append_space :
    console.Keeps (text ++ ' ' :: back) ↔ console.Keeps text ∧ console.Keeps back := by
  constructor
  · rintro ⟨tab, hidden, unknown⟩
    rw [codes_append_space, List.forall_mem_append] at unknown
    rw [List.forall_mem_append, List.forall_mem_cons] at hidden
    simp only [List.mem_append, List.mem_cons, not_or] at tab
    exact ⟨⟨tab.1, hidden.1, unknown.1⟩, ⟨tab.2.2, hidden.2.2, unknown.2⟩⟩
  · rintro ⟨⟨tab, hidden, unknown⟩, ⟨tab', hidden', unknown'⟩⟩
    refine ⟨List.not_mem_append tab (by simpa using tab'), ?_, ?_⟩
    · exact List.forall_mem_append.mpr ⟨hidden, List.forall_mem_cons.mpr ⟨by decide, hidden'⟩⟩
    · rw [codes_append_space]
      exact List.forall_mem_append.mpr ⟨unknown, unknown'⟩

/-- One colon makes no code. -/
theorem keeps_once (inert : Inert front) (inert' : Inert back) :
    console.Keeps (front ++ ':' :: back) := by
  rw [keeps_append inert]
  refine ⟨?_, List.forall_mem_cons.mpr ⟨by decide, fun c inside => (inert' c inside).2.2⟩, ?_⟩
  · intro inside
    rcases List.mem_cons.mp inside with colon | inside
    · cases colon
    · exact (inert' _ inside).2.1 rfl
  · simp [codes, codes_eq_nil inert']

end Parts
end LineBudget.Console
