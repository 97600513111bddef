import LineBudget.Proofs.Text.Utf8

/-! What the replacing decoder makes of octets. Octets that spell a text become that text, and in all
others some character is the replacement. An octet below 0x80 is a character of its own wherever it
stands, behind a broken start of a character too, so that octets can be divided at it before they are
decoded. -/
namespace LineBudget.Text.Utf8

/-- The character that a step adds to the text. -/
def Step.shown (step : Step) : Char :=
  match step.found with
  | .ok c => c
  | .error _ => replacement

variable {count bits : Nat} {low high b mark : UInt8} {octets rest : List UInt8} {lead : Lead}
  {text : List Char} {c : Char}

section Steps

theorem decodeReplacingOnto_cons (done : List Char) (b : UInt8) (octets : List UInt8) :
    decodeReplacingOnto done (b :: octets) =
      decodeReplacingOnto ((readStep b octets).shown :: done) (readStep b octets).rest := by
  rw [decodeReplacingOnto]
  rfl

/-- Octets are none, or a first one and those that a step on it leaves. -/
theorem step_induction {P : List UInt8 → Prop} (empty : P [])
    (step : ∀ b octets, P (readStep b octets).rest → P (b :: octets)) (octets : List UInt8) :
    P octets :=
  match octets with
  | [] => empty
  | b :: octets => step b octets (step_induction empty step (readStep b octets).rest)
termination_by octets.length
decreasing_by
  have := readStep_rest_le b octets
  simp only [List.length_cons]
  omega

theorem decodeReplacingOnto_eq (done : List Char) (octets : List UInt8) :
    decodeReplacingOnto done octets = done.reverse ++ decodeReplacing octets := by
  unfold decodeReplacing
  induction octets using step_induction generalizing done with
  | empty => simp [decodeReplacingOnto]
  | step b octets ih =>
    rw [decodeReplacingOnto_cons, decodeReplacingOnto_cons, ih, ih [_]]
    simp

@[simp] theorem decodeReplacing_nil : decodeReplacing [] = [] := by
  rw [decodeReplacing, decodeReplacingOnto, List.reverse_nil]

theorem decodeReplacing_cons (b : UInt8) (octets : List UInt8) :
    decodeReplacing (b :: octets) =
      (readStep b octets).shown :: decodeReplacing (readStep b octets).rest := by
  rw [decodeReplacing, decodeReplacingOnto_cons, decodeReplacingOnto_eq]
  rfl

theorem decodeReplacing_eq_nil_iff : decodeReplacing octets = [] ↔ octets = [] := by
  cases octets with
  | nil => simp
  | cons b octets => simp [decodeReplacing_cons]

end Steps

section Marks

/-- An octet that is out of range ends a character, as the end of the octets does. -/
theorem readFollowing_append (plain : mark < 0x80) (outside : mark < low) (rest : List UInt8) :
    (readFollowing count bits low high (octets ++ mark :: rest)).shown =
        (readFollowing count bits low high octets).shown ∧
      (readFollowing count bits low high (octets ++ mark :: rest)).rest =
        (readFollowing count bits low high octets).rest ++ mark :: rest := by
  fun_induction readFollowing count bits low high octets with
  | case1 =>
    rw [readFollowing]
    exact ⟨rfl, rfl⟩
  | case2 bits low high count =>
    have stops : ¬ (low ≤ mark ∧ mark ≤ high) := fun inside =>
      absurd inside.1 (UInt8.not_le.mpr outside)
    rw [List.nil_append, readFollowing, if_neg stops]
    exact ⟨rfl, rfl⟩
  | case3 bits low high count b octets inside ih =>
    rw [List.cons_append, readFollowing, if_pos inside]
    exact ih plain
  | case4 bits low high count b octets beyond =>
    rw [List.cons_append, readFollowing, if_neg beyond]
    exact ⟨rfl, rfl⟩

/-- No octet below 0x80 follows a leading one. -/
theorem le_low (promised : Lead.ofOctet b = some lead) : 0x80 ≤ lead.low := by
  simp only [Lead.ofOctet] at promised
  split_ifs at promised <;> cases promised <;> exact of_decide_eq_true rfl

theorem readStep_append (plain : mark < 0x80) (b : UInt8) (octets rest : List UInt8) :
    (readStep b (octets ++ mark :: rest)).shown = (readStep b octets).shown ∧
      (readStep b (octets ++ mark :: rest)).rest = (readStep b octets).rest ++ mark :: rest := by
  unfold readStep
  split_ifs with single
  · exact ⟨rfl, rfl⟩
  · cases promised : Lead.ofOctet b with
    | none => exact ⟨rfl, rfl⟩
    | some lead =>
      have outside : mark < lead.low := UInt8.lt_of_lt_of_le plain (le_low promised)
      exact readFollowing_append plain outside rest

theorem readStep_plain (plain : mark < 0x80) (octets : List UInt8) :
    readStep mark octets = ⟨.ok (Char.ofNat mark.toNat), octets⟩ := by
  rw [readStep, if_pos plain]

theorem readFollowing_suffix (count bits : Nat) (low high : UInt8) (octets : List UInt8) :
    (readFollowing count bits low high octets).rest <:+ octets := by
  fun_induction readFollowing count bits low high octets with
  | case1 | case2 | case4 => exact List.suffix_rfl
  | case3 bits low high count b octets inside ih => exact ih.trans (List.suffix_cons b octets)

theorem readStep_suffix (b : UInt8) (octets : List UInt8) : (readStep b octets).rest <:+ octets := by
  unfold readStep
  split_ifs
  · exact List.suffix_rfl
  · split
    · exact List.suffix_rfl
    · exact readFollowing_suffix ..

/-- What stands on the two sides of an octet below 0x80 is decoded as if it stood alone. -/
theorem decodeReplacing_append (plain : mark < 0x80) (octets rest : List UInt8) :
    decodeReplacing (octets ++ mark :: rest) =
      decodeReplacing octets ++ Char.ofNat mark.toNat :: decodeReplacing rest := by
  induction octets using step_induction with
  | empty =>
    rw [List.nil_append, decodeReplacing_cons, readStep_plain plain, decodeReplacing_nil]
    rfl
  | step b octets ih =>
    obtain ⟨shown, left⟩ := readStep_append plain b octets rest
    rw [List.cons_append, decodeReplacing_cons, shown, left, ih, decodeReplacing_cons]
    rfl

end Marks

section Spelling

/-- A step that shows anything but the replacement has read its spelling. -/
theorem encode_of_shown (shown : (readStep b octets).shown = c) (other : c ≠ replacement) :
    b :: octets = String.utf8EncodeChar c ++ (readStep b octets).rest := by
  cases found : (readStep b octets).found with
  | ok read =>
    obtain rfl : read = c := by rwa [Step.shown, found] at shown
    exact encode_of_readStep found
  | error defect =>
    rw [Step.shown, found] at shown
    exact absurd shown.symm other

theorem decodeReplacing_spells (text : List Char) :
    decodeReplacing (text.flatMap String.utf8EncodeChar) = text := by
  induction text with
  | nil => exact decodeReplacing_nil
  | cons c text ih =>
    obtain ⟨b, following, spelled, step⟩ :=
      readStep_encode c (text.flatMap String.utf8EncodeChar)
    rw [List.flatMap_cons, spelled, List.cons_append, decodeReplacing_cons, step, ih]
    rfl

/-- A text without the replacement is decoded from its own spelling alone. -/
theorem decodeReplacing_eq_iff (whole : replacement ∉ text) :
    decodeReplacing octets = text ↔ Spells text octets := by
  constructor
  · rintro rfl
    induction octets using step_induction with
    | empty => rw [decodeReplacing_nil]; rfl
    | step b octets ih =>
      rw [decodeReplacing_cons, List.mem_cons, not_or] at whole
      rw [decodeReplacing_cons, Spells, List.flatMap_cons, ← ih whole.2]
      exact encode_of_shown rfl (Ne.symm whole.1)
  · rintro rfl
    exact decodeReplacing_spells text

theorem plain_ne_replacement (plain : mark < 0x80) : Char.ofNat mark.toNat ≠ replacement := by
  intro same
  have small : mark.toNat < 0x80 := UInt8.lt_iff_toNat_lt.mp plain
  have bits : (Char.ofNat mark.toNat).val.toNat = 0xFFFD := congrArg (·.val.toNat) same
  rw [toNat_ofNat (.inl (by omega))] at bits
  omega

/-- A text ends with a character below 0x80 only if the octets end with its octet. -/
theorem getLast?_of_decodeReplacing (plain : mark < 0x80)
    (last : (decodeReplacing octets).getLast? = some (Char.ofNat mark.toNat)) :
    octets.getLast? = some mark := by
  induction octets using step_induction with
  | empty => simp at last
  | step b octets ih =>
    obtain ⟨taken, split⟩ := readStep_suffix b octets
    rw [decodeReplacing_cons] at last
    by_cases none : (readStep b octets).rest = []
    · rw [none, decodeReplacing_nil, List.getLast?_singleton, Option.some.injEq] at last
      have spelled := encode_of_shown last (plain_ne_replacement plain)
      rw [encode_one plain, none, List.append_nil] at spelled
      rw [spelled, List.getLast?_singleton]
    · have more : decodeReplacing (readStep b octets).rest ≠ [] :=
        mt decodeReplacing_eq_nil_iff.mp none
      rw [List.getLast?_cons_of_ne_nil more] at last
      rw [← split, ← List.cons_append, List.getLast?_append_of_ne_nil _ none]
      exact ih last

end Spelling
end LineBudget.Text.Utf8
