import LineBudget.Text.Utf8
import Mathlib.Data.List.Basic

/-! What the strict decoder reads: the encodings of texts, and each of them as its own text. -/
namespace LineBudget.Text.Utf8

/-- The first octet lies in the range, and all octets behind it are tails. -/
def Within (low high : UInt8) : List UInt8 → Prop
  | [] => True
  | b :: rest => low ≤ b ∧ b ≤ high ∧ Within 0x80 0xBF rest

/-- The bits of a character with those of its following octets. -/
def withBits (bits : Nat) : List UInt8 → Nat
  | [] => bits
  | b :: rest => withBits (bits * 64 + b.toNat % 64) rest

variable {count bits : Nat} {low high b : UInt8} {octets following rest : List UInt8} {c : Char}
  {lead : Lead}

theorem readFollowing_within (within : Within low high following) :
    readFollowing following.length bits low high (following ++ rest) =
      ⟨.ok (Char.ofNat (withBits bits following)), rest⟩ := by
  induction following generalizing bits low high with
  | nil => rfl
  | cons b more ih =>
    obtain ⟨above, below, tails⟩ := within
    rw [List.length_cons, List.cons_append, readFollowing, if_pos ⟨above, below⟩]
    exact ih tails

theorem within_of_readFollowing
    (found : (readFollowing count bits low high octets).found = .ok c) :
    ∃ following, following.length = count ∧ Within low high following ∧
      octets = following ++ (readFollowing count bits low high octets).rest ∧
      c = Char.ofNat (withBits bits following) := by
  fun_induction readFollowing count bits low high octets with
  | case1 bits low high octets =>
    cases found
    exact ⟨[], rfl, trivial, rfl, rfl⟩
  | case2 => cases found
  | case3 bits low high count b octets inside ih =>
    obtain ⟨more, length, tails, split, char⟩ := ih found
    refine ⟨b :: more, congrArg (· + 1) length, ⟨inside.1, inside.2, tails⟩, ?_, char⟩
    exact congrArg (b :: ·) split
  | case4 => cases found

theorem toNat_ofNat (valid : bits.isValidChar) : (Char.ofNat bits).val.toNat = bits := by
  rw [Char.ofNat, dif_pos valid]
  rfl

/-- An octet is told by its number. -/
theorem octet_eq {n : Nat} (same : n = b.toNat) : UInt8.ofNat n = b := by
  rw [same, UInt8.ofNat_toNat]

theorem exists_octet {n : Nat} (small : n < 0x100) : ∃ b : UInt8, n = b.toNat :=
  ⟨UInt8.ofNat n, (UInt8.toNat_ofNat_of_lt small).symm⟩

theorem encode_one (plain : b < 0x80) : String.utf8EncodeChar (Char.ofNat b.toNat) = [b] := by
  have small : b.toNat < 0x80 := UInt8.lt_iff_toNat_lt.mp plain
  rw [String.utf8EncodeChar, toNat_ofNat (.inl (by omega)), if_pos (by omega)]
  rw [octet_eq rfl]

/-- A leading octet and as many octets as it promises, which make up the bits of a number. -/
inductive Led (n : Nat) : List UInt8 → Prop
  | intro {b : UInt8} {lead : Lead} {following : List UInt8} (beyond : ¬ b < 0x80)
    (promised : Lead.ofOctet b = some lead) (length : following.length = lead.following)
    (within : Within lead.low lead.high following) (made : withBits lead.bits following = n) :
    Led n (b :: following)

section Two
variable {n : Nat} {first last : UInt8}

/-- Two octets spell the character of their bits if no shorter spelling does. -/
theorem encode_two (least : 0x80 ≤ n) (most : n < 0x800) (isFirst : n / 64 + 0xC0 = first.toNat)
    (isLast : n % 64 + 0x80 = last.toNat) :
    String.utf8EncodeChar (Char.ofNat n) = [first, last] := by
  have valid : n.isValidChar := .inl (by omega)
  have same : n / 64 % 0x20 + 0xC0 = first.toNat := by omega
  rw [String.utf8EncodeChar, toNat_ofNat valid]
  rw [if_neg (by omega), if_pos (by omega), octet_eq same, octet_eq isLast]

theorem led_two (least : 0x80 ≤ n) (most : n < 0x800) (isFirst : n / 64 + 0xC0 = first.toNat)
    (isLast : n % 64 + 0x80 = last.toNat) : Led n [first, last] := by
  have promised : Lead.ofOctet first = some ⟨1, first.toNat - 0xC0, 0x80, 0xBF⟩ := by
    simp only [Lead.ofOctet]
    rw [if_neg (by omega), if_pos (by omega)]
  refine .intro ?_ promised rfl ?_ ?_
  · simp only [UInt8.lt_iff_toNat_lt, UInt8.reduceToNat]
    omega
  · simp only [Within, UInt8.le_iff_toNat_le, UInt8.reduceToNat, and_true]
    omega
  · simp only [withBits]
    omega

end Two

section Three
variable {n : Nat} {first second last : UInt8}

theorem encode_three (least : 0x800 ≤ n) (most : n < 0x10000) (valid : n.isValidChar)
    (isFirst : n / 4096 + 0xE0 = first.toNat) (isSecond : n / 64 % 64 + 0x80 = second.toNat)
    (isLast : n % 64 + 0x80 = last.toNat) :
    String.utf8EncodeChar (Char.ofNat n) = [first, second, last] := by
  have same : n / 4096 % 0x10 + 0xE0 = first.toNat := by omega
  rw [String.utf8EncodeChar, toNat_ofNat valid]
  rw [if_neg (by omega), if_neg (by omega), if_pos (by omega), octet_eq same, octet_eq isSecond,
    octet_eq isLast]

/-- The second octet has less room behind the first and behind the last but one of the leading
octets: no shorter spelling, and no surrogate. -/
theorem led_three (least : 0x800 ≤ n) (most : n < 0x10000) (valid : n.isValidChar)
    (isFirst : n / 4096 + 0xE0 = first.toNat) (isSecond : n / 64 % 64 + 0x80 = second.toNat)
    (isLast : n % 64 + 0x80 = last.toNat) : Led n [first, second, last] := by
  have promised : Lead.ofOctet first = some ⟨2, first.toNat - 0xE0,
      if first.toNat = 0xE0 then 0xA0 else 0x80, if first.toNat = 0xED then 0x9F else 0xBF⟩ := by
    simp only [Lead.ofOctet]
    rw [if_neg (by omega), if_neg (by omega)]
    by_cases lowest : first.toNat = 0xE0
    · simp [lowest]
    · by_cases surrogates : first.toNat = 0xED
      · simp [surrogates]
      · have inner : first.toNat < 0xF0 := by omega
        simp [lowest, surrogates, inner]
  unfold Nat.isValidChar at valid
  refine .intro ?_ promised rfl ?_ ?_
  · simp only [UInt8.lt_iff_toNat_lt, UInt8.reduceToNat]
    omega
  · simp only [Within, UInt8.le_iff_toNat_le, and_true]
    split_ifs <;> simp only [UInt8.reduceToNat] <;> omega
  · simp only [withBits]
    omega

end Three

section Four
variable {n : Nat} {first second third last : UInt8}

theorem encode_four (least : 0x10000 ≤ n) (most : n < 0x110000)
    (isFirst : n / 262144 + 0xF0 = first.toNat) (isSecond : n / 4096 % 64 + 0x80 = second.toNat)
    (isThird : n / 64 % 64 + 0x80 = third.toNat) (isLast : n % 64 + 0x80 = last.toNat) :
    String.utf8EncodeChar (Char.ofNat n) = [first, second, third, last] := by
  have valid : n.isValidChar := .inr (by omega)
  have same : n / 262144 % 0x08 + 0xF0 = first.toNat := by omega
  rw [String.utf8EncodeChar, toNat_ofNat valid]
  rw [if_neg (by omega), if_neg (by omega), if_neg (by omega), octet_eq same, octet_eq isSecond,
    octet_eq isThird, octet_eq isLast]

theorem led_four (least : 0x10000 ≤ n) (most : n < 0x110000)
    (isFirst : n / 262144 + 0xF0 = first.toNat) (isSecond : n / 4096 % 64 + 0x80 = second.toNat)
    (isThird : n / 64 % 64 + 0x80 = third.toNat) (isLast : n % 64 + 0x80 = last.toNat) :
    Led n [first, second, third, last] := by
  have promised : Lead.ofOctet first = some ⟨3, first.toNat - 0xF0,
      if first.toNat = 0xF0 then 0x90 else 0x80, if first.toNat = 0xF4 then 0x8F else 0xBF⟩ := by
    simp only [Lead.ofOctet]
    rw [if_neg (by omega), if_neg (by omega), if_neg (by omega), if_neg (by omega),
      if_neg (by omega)]
    by_cases lowest : first.toNat = 0xF0
    · simp [lowest]
    · by_cases highest : first.toNat = 0xF4
      · simp [highest]
      · have inner : first.toNat < 0xF4 := by omega
        simp [lowest, highest, inner]
  refine .intro ?_ promised rfl ?_ ?_
  · simp only [UInt8.lt_iff_toNat_lt, UInt8.reduceToNat]
    omega
  · simp only [Within, UInt8.le_iff_toNat_le, and_true]
    split_ifs <;> simp only [UInt8.reduceToNat] <;> omega
  · simp only [withBits]
    omega

end Four

/-- A leading octet and as many octets as it promises spell the character of their bits. -/
theorem encode_lead (promised : Lead.ofOctet b = some lead)
    (length : following.length = lead.following) (within : Within lead.low lead.high following) :
    String.utf8EncodeChar (Char.ofNat (withBits lead.bits following)) = b :: following := by
  simp only [Lead.ofOctet] at promised
  split_ifs at promised <;> cases promised <;> dsimp only at length within ⊢
  · obtain ⟨x, rfl⟩ := List.length_eq_one_iff.mp length
    simp only [Within, withBits, UInt8.le_iff_toNat_le, UInt8.reduceToNat] at within ⊢
    apply encode_two <;> omega
  -- The leading octets of three come in three ranges, as the second octet has more or less room.
  iterate 3
    · obtain ⟨x, y, rfl⟩ := List.length_eq_two.mp length
      simp only [Within, withBits, UInt8.le_iff_toNat_le, UInt8.reduceToNat] at within ⊢
      apply encode_three <;> (try unfold Nat.isValidChar) <;> omega
  iterate 3
    · obtain ⟨x, y, z, rfl⟩ := List.length_eq_three.mp length
      simp only [Within, withBits, UInt8.le_iff_toNat_le, UInt8.reduceToNat] at within ⊢
      apply encode_four <;> omega

/-- Every character beyond the first 128 is spelled with a leading octet that promises the rest. -/
theorem led_encode {n : Nat} (beyond : 0x80 ≤ n) (valid : n.isValidChar) :
    Led n (String.utf8EncodeChar (Char.ofNat n)) := by
  have below : n < 0x110000 := by
    unfold Nat.isValidChar at valid
    omega
  obtain ⟨last, isLast⟩ := exists_octet (show n % 64 + 0x80 < 0x100 by omega)
  obtain ⟨third, isThird⟩ := exists_octet (show n / 64 % 64 + 0x80 < 0x100 by omega)
  obtain ⟨second, isSecond⟩ := exists_octet (show n / 4096 % 64 + 0x80 < 0x100 by omega)
  by_cases two : n < 0x800
  · obtain ⟨first, isFirst⟩ := exists_octet (show n / 64 + 0xC0 < 0x100 by omega)
    rw [encode_two beyond two isFirst isLast]
    exact led_two beyond two isFirst isLast
  · rw [Nat.not_lt] at two
    by_cases three : n < 0x10000
    · obtain ⟨first, isFirst⟩ := exists_octet (show n / 4096 + 0xE0 < 0x100 by omega)
      rw [encode_three two three valid isFirst isThird isLast]
      exact led_three two three valid isFirst isThird isLast
    · rw [Nat.not_lt] at three
      obtain ⟨first, isFirst⟩ := exists_octet (show n / 262144 + 0xF0 < 0x100 by omega)
      rw [encode_four three below isFirst isSecond isThird isLast]
      exact led_four three below isFirst isSecond isThird isLast

/-- A step reads the spelling of a character back, whatever stands behind it. -/
theorem readStep_encode (c : Char) (rest : List UInt8) :
    ∃ b following, String.utf8EncodeChar c = b :: following ∧
      readStep b (following ++ rest) = ⟨.ok c, rest⟩ := by
  have same : Char.ofNat c.val.toNat = c := Char.ofNat_toNat c
  by_cases plain : c.val.toNat < 0x80
  · obtain ⟨b, bits⟩ := exists_octet (Nat.lt_trans plain (by decide))
    have small : b < 0x80 := UInt8.lt_iff_toNat_lt.mpr (bits ▸ plain)
    have spelled := encode_one small
    rw [← bits, same] at spelled
    refine ⟨b, [], spelled, ?_⟩
    rw [readStep, if_pos small, ← bits, same]
    rfl
  · have led := led_encode (Nat.not_lt.mp plain) c.valid
    rw [same] at led
    generalize String.utf8EncodeChar c = spelled at led
    cases led with
    | intro beyond promised length within made =>
      refine ⟨_, _, rfl, ?_⟩
      simp only [readStep, if_neg beyond, promised]
      rw [← length, readFollowing_within within, made, same]

/-- A step that reads a character has read its spelling. -/
theorem encode_of_readStep (found : (readStep b octets).found = .ok c) :
    b :: octets = String.utf8EncodeChar c ++ (readStep b octets).rest := by
  unfold readStep at found ⊢
  split_ifs at found ⊢ with plain
  · cases found
    rw [encode_one plain]
    rfl
  · cases promised : Lead.ofOctet b with
    | none =>
      rw [promised] at found
      cases found
    | some lead =>
      simp only [promised] at found ⊢
      obtain ⟨following, length, within, split, rfl⟩ := within_of_readFollowing found
      rw [encode_lead promised length within, List.cons_append, ← split]

/-- Octets as the spelling of a text, character by character. -/
def Spells (text : List Char) (octets : List UInt8) : Prop :=
  octets = text.flatMap String.utf8EncodeChar

theorem decodeOnto_spells (done : List Char) (position : Nat) (text : List Char) :
    decodeOnto done position (text.flatMap String.utf8EncodeChar) =
      .ok (done.reverse ++ text) := by
  induction text generalizing done position with
  | nil => simp [decodeOnto]
  | cons c text ih =>
    obtain ⟨b, following, spelled, step⟩ :=
      readStep_encode c (text.flatMap String.utf8EncodeChar)
    rw [List.flatMap_cons, spelled, List.cons_append, decodeOnto]
    simp only [step, ih, List.reverse_cons, List.append_assoc, List.singleton_append]

theorem spells_of_decodeOnto {done text : List Char} {position : Nat}
    (decoded : decodeOnto done position octets = .ok text) :
    ∃ more, text = done.reverse ++ more ∧ Spells more octets := by
  fun_induction decodeOnto done position octets with
  | case1 done position =>
    cases decoded
    exact ⟨[], by simp, rfl⟩
  | case2 done position b octets step c found ih =>
    obtain ⟨more, rfl, spells⟩ := ih decoded
    refine ⟨c :: more, by simp, ?_⟩
    rw [Spells, encode_of_readStep found, List.flatMap_cons]
    exact congrArg (String.utf8EncodeChar c ++ ·) spells
  | case3 => cases decoded

/-- The strict decoder accepts exactly the spellings of texts, each as its own text. -/
theorem decode_eq_ok_iff {text : List Char} : decode octets = .ok text ↔ Spells text octets := by
  constructor
  · intro decoded
    obtain ⟨more, rfl, spells⟩ := spells_of_decodeOnto decoded
    exact spells
  · rintro rfl
    exact decodeOnto_spells [] 0 text

theorem toList_loop (bytes : ByteArray) (i : Nat) (done : List UInt8) :
    ByteArray.toList.loop bytes i done = done.reverse ++ bytes.data.toList.drop i := by
  fun_induction ByteArray.toList.loop bytes i done with
  | case1 i done within ih =>
    have next : bytes.data.toList.drop i = bytes.get! i :: bytes.data.toList.drop (i + 1) := by
      have inside : i < bytes.data.toList.length := within
      rw [List.drop_eq_getElem_cons inside, ByteArray.get!, getElem!_pos bytes.data i within]
      rfl
    rw [ih, next, List.reverse_cons, List.append_assoc, List.singleton_append]
  | case2 i done beyond =>
    have none : bytes.data.toList.drop i = [] := List.drop_eq_nil_of_le (Nat.not_lt.mp beyond)
    rw [none, List.append_nil]

/-- A text is encoded by its spelling. -/
theorem spells_encode (text : String) : Spells text.toList (encode text) := by
  rw [Spells, encode, ByteArray.toList, toList_loop, String.toUTF8, ← String.utf8Encode_toList,
    List.utf8Encode, List.data_toByteArray]
  rfl

theorem encode_append (text more : String) : encode (text ++ more) = encode text ++ encode more := by
  rw [spells_encode, spells_encode, spells_encode, String.toList_append, List.flatMap_append]

end LineBudget.Text.Utf8
