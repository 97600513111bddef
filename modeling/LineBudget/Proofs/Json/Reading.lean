import LineBudget.Json.Printer
import LineBudget.Json.Reader
import Mathlib

/-! Reading what was printed. The reader takes the text of a value back to the value and leaves what
follows the text, for all values without floating-point numbers: texts of any characters, integers
of any size, lists and objects at any depth. -/
namespace LineBudget.Number
open LineBudget.Text

theorem alphanumericValue?_digit {c : Char} (digit : c.isDigit = true) :
    alphanumericValue? c = some (c.toNat - '0'.toNat) := by
  rw [alphanumericValue?, if_pos digit]

theorem digit_lt {c : Char} (digit : c.isDigit = true) : c.toNat - '0'.toNat < 10 := by
  have zero : '0'.toNat = 48 := rfl
  have bounds : 48 ≤ c.toNat ∧ c.toNat ≤ 57 := by
    simpa [Char.isDigit, UInt32.le_iff_toNat_le] using digit
  omega

/-- The decimal digits of a number are read as the number. -/
theorem digitsValue?_toDigits (n : Nat) : digitsValue? 10 (Nat.toDigits 10 n) = some n := by
  have onward (digits : List Char) (all : ∀ c ∈ digits, c.isDigit = true) (before : Nat) :
      digits.foldlM (fun n c => do
        let d ← alphanumericValue? c
        if d < 10 then some (n * 10 + d) else none) before =
        some (Nat.ofDigitChars 10 digits before) := by
    induction digits generalizing before with
    | nil => rfl
    | cons c rest ih =>
      obtain ⟨digit, later⟩ := List.forall_mem_cons.mp all
      rw [List.foldlM_cons, alphanumericValue?_digit digit, Nat.ofDigitChars_cons,
        Nat.mul_comm 10 before]
      simp only [Option.bind_eq_bind, Option.bind_some, if_pos (digit_lt digit)]
      exact ih later _
  have digits : ∀ c ∈ Nat.toDigits 10 n, c.isDigit = true := fun c member =>
    Nat.isDigit_of_mem_toDigits (by decide) (by decide) member
  rw [digitsValue?, onward _ digits, Nat.ofDigitChars_ten_toDigits]

theorem alphanumericValue?_digitChar : ∀ d < 16, alphanumericValue? (Nat.digitChar d) = some d := by
  decide

/-- Hexadecimal digits are read as what is left of the number in so many of them. -/
theorem digitsValue?_hexDigits (width n : Nat) :
    digitsValue? 16 (hexDigits width n) = some (n % 16 ^ width) := by
  induction width generalizing n with
  | zero => simp [hexDigits, digitsValue?, Nat.mod_one]
  | succ width ih =>
    have small : n % 16 < 16 := Nat.mod_lt n (by decide)
    have value : n / 16 % 16 ^ width * 16 + n % 16 = n % 16 ^ (width + 1) := by
      rw [pow_succ', Nat.mod_mul, Nat.mul_comm, Nat.add_comm]
    have front := ih (n / 16)
    rw [digitsValue?] at front
    rw [digitsValue?, hexDigits, List.foldlM_append, front]
    simp [alphanumericValue?_digitChar _ small, small, value]

end LineBudget.Number

namespace LineBudget.Json
open LineBudget.Number LineBudget.Text

/-- Values without floating-point numbers. -/
inductive Exact : Json → Prop
  | null : Exact .null
  | bool (value : Bool) : Exact (.bool value)
  | int (value : Int) : Exact (.int value)
  | text (value : String) : Exact (.text value)
  | list {items : List Json} (all : ∀ item ∈ items, Exact item) : Exact (.list items)
  | object {members : List (String × Json)} (all : ∀ member ∈ members, Exact member.2) :
    Exact (.object members)

/-- What follows a value does not go on with a number. -/
def Stops (rest : List Char) : Prop := ∀ c ∈ rest.head?, isNumberChar c = false

/-- The text of a value is read as the value, whatever follows. -/
def ReadsBack (value : Json) : Prop :=
  ∀ level fuel rest, Stops rest → (write level value).length < fuel →
    readValue? fuel (write level value ++ rest) = some (value, rest)

section Quoted
variable {c : Char} {done rest text : List Char} {fuel : Nat}

theorem readHex4?_hexDigits {n : Nat} (small : n < 16 ^ 4) :
    readHex4? (hexDigits 4 n ++ rest) = some (n, rest) := by
  have value := digitsValue?_hexDigits 4 n
  rw [Nat.mod_eq_of_lt small] at value
  simp only [hexDigits, List.nil_append, List.cons_append] at value ⊢
  rw [readHex4?, value]
  rfl

theorem escapeChar_ne_nil (c : Char) : escapeChar c ≠ [] := by
  unfold escapeChar
  split_ifs <;> simp

/-- The reader takes back one character with its escape. -/
theorem readQuoted?_escapeChar : readQuoted? (fuel + 1) done (escapeChar c ++ rest) =
    readQuoted? fuel (c :: done) rest := by
  have named {n : Nat} (same : c.toNat = n) : c = Char.ofNat n := by
    rw [← same, Char.ofNat_toNat]
  unfold escapeChar
  split_ifs with quote backslash feed ret tab back page control
  · simp [quote, readQuoted?, readEscape?]
  · simp [backslash, readQuoted?, readEscape?]
  · simp [feed, readQuoted?, readEscape?]
  · simp [ret, readQuoted?, readEscape?]
  · simp [tab, readQuoted?, readEscape?]
  · rw [named back]
    simp [readQuoted?, readEscape?]
  · rw [named page]
    simp [readQuoted?, readEscape?]
  · have escape : readEscape? ('u' :: (hexDigits 4 c.toNat ++ rest)) = some (c, rest) := by
      have high : ¬ (0xD800 ≤ c.toNat ∧ c.toNat < 0xDC00) := by omega
      have low : ¬ (0xDC00 ≤ c.toNat ∧ c.toNat < 0xE000) := by omega
      rw [readEscape?, readHex4?_hexDigits (by omega)]
      simp only [Option.bind_eq_bind, Option.bind_some, if_neg high, if_neg low, Char.ofNat_toNat]
    rw [List.cons_append, List.cons_append, readQuoted?, escape]
  · rw [List.singleton_append, readQuoted?.eq_def]
    split <;> simp_all

/-- A quoted text is read up to its closing quote. -/
theorem readQuoted?_quote (enough : text.length < fuel) :
    readQuoted? fuel done (text.flatMap escapeChar ++ '"' :: rest) =
      some (done.reverse ++ text, rest) := by
  induction text generalizing fuel done with
  | nil =>
    obtain ⟨fuel, rfl⟩ := Nat.exists_eq_add_of_lt enough
    simp [readQuoted?]
  | cons c more ih =>
    rw [List.length_cons] at enough
    obtain ⟨fuel, rfl⟩ : ∃ n, fuel = n + 1 := ⟨fuel - 1, by omega⟩
    rw [List.flatMap_cons, List.append_assoc, readQuoted?_escapeChar, ih (by omega)]
    simp

theorem length_le_flatMap_escapeChar (text : List Char) :
    text.length ≤ (text.flatMap escapeChar).length := by
  induction text with
  | nil => exact Nat.le_refl _
  | cons c rest ih =>
    have := List.length_pos_iff.mpr (escapeChar_ne_nil c)
    simp only [List.flatMap_cons, List.length_append, List.length_cons]
    omega

theorem readQuoted?_rest (text rest : List Char) :
    readQuoted? ((text.flatMap escapeChar ++ '"' :: rest).length + 1) []
      (text.flatMap escapeChar ++ '"' :: rest) = some (text, rest) := by
  have shorter := length_le_flatMap_escapeChar text
  refine readQuoted?_quote ?_
  rw [List.length_append]
  omega

end Quoted

section Number
variable {c d : Char} {more rest : List Char} {fuel : Nat}

theorem digit_ne (digit : c.isDigit = true) (other : d.isDigit = false) : c ≠ d := by
  rintro rfl
  rw [digit] at other
  cases other

/-- An integer is written with its digits, behind a sign if it is negative. -/
theorem writeInt_digits (i : Int) : ∃ c more, Nat.toDigits 10 i.natAbs = c :: more ∧
    (∀ c ∈ Nat.toDigits 10 i.natAbs, c.isDigit = true) ∧
    (writeInt i = Nat.toDigits 10 i.natAbs ∧ 0 ≤ i ∨
      writeInt i = '-' :: Nat.toDigits 10 i.natAbs ∧ i < 0) := by
  obtain ⟨c, more, digits⟩ := List.exists_cons_of_ne_nil
    (Nat.toDigits_ne_nil : Nat.toDigits 10 i.natAbs ≠ [])
  refine ⟨c, more, digits, ?_, ?_⟩
  · intro c member
    exact Nat.isDigit_of_mem_toDigits (b := 10) (by decide) (by decide) member
  · by_cases negative : i < 0
    · exact .inr ⟨by rw [writeInt, if_pos negative], negative⟩
    · exact .inl ⟨by rw [writeInt, if_neg negative], Int.not_lt.mp negative⟩

theorem splitSign_digit (digit : c.isDigit = true) : splitSign (c :: more) = (false, c :: more) := by
  have minus := digit_ne digit (d := '-') rfl
  have plus := digit_ne digit (d := '+') rfl
  rw [splitSign.eq_def]
  split <;> simp_all

theorem readNumber?_writeInt (i : Int) : readNumber? (writeInt i) = some (.int i) := by
  obtain ⟨c, more, digits, all, written⟩ := writeInt_digits i
  have value := digitsValue?_toDigits i.natAbs
  have fraction {c : Char} (digit : c.isDigit = true) :
      (decide (c = '.') || decide (c = 'e') || decide (c = 'E')) = false := by
    simp [digit_ne digit (d := '.') rfl, digit_ne digit (d := 'e') rfl,
      digit_ne digit (d := 'E') rfl]
  have whole : (Nat.toDigits 10 i.natAbs).any (fun c => c = '.' || c = 'e' || c = 'E') = false :=
    List.any_eq_false.mpr fun c member => by simp [fraction (all c member)]
  rw [digits] at value all written whole
  have first := all c (List.mem_cons_self ..)
  rcases written with ⟨written, sign⟩ | ⟨written, sign⟩
  · rw [readNumber?, written, whole, splitSign_digit first]
    simp [value, sign]
  · rw [readNumber?, written, List.any_cons, whole]
    simp [splitSign, value, abs_of_neg sign]

theorem isNumberChar_writeInt (i : Int) : ∀ c ∈ writeInt i, isNumberChar c = true := by
  obtain ⟨_, _, _, all, written⟩ := writeInt_digits i
  have digits : ∀ c ∈ Nat.toDigits 10 i.natAbs, isNumberChar c = true := by
    intro c member
    simp [isNumberChar, all c member]
  rcases written with ⟨written, _⟩ | ⟨written, _⟩
  · exact written ▸ digits
  · exact written ▸ List.forall_mem_cons.mpr ⟨rfl, digits⟩

/-- A number is read up to where it stops. -/
theorem takeWhile_writeInt (i : Int) (stops : Stops rest) :
    (writeInt i ++ rest).takeWhile isNumberChar = writeInt i := by
  rw [List.takeWhile_append_of_pos (isNumberChar_writeInt i)]
  cases rest with
  | nil => simp
  | cons c more => simp [stops c rfl]

theorem afterWord?_ne (word : String) {text : List Char}
    (other : word.toList.isPrefixOf text = false) : afterWord? word text = none := by
  rw [afterWord?, other]
  rfl

theorem skipSpace_cons (solid : isSpace c = false) : skipSpace (c :: more) = c :: more :=
  List.dropWhile_cons_of_neg (by simp [solid])

/-- What begins like a number and is not infinite is read as a number. -/
theorem readValue?_number (number : isNumberChar c = true)
    (finite : "-Infinity".toList.isPrefixOf (c :: more) = false) :
    readValue? (fuel + 1) (c :: more) =
      (readNumber? ((c :: more).takeWhile isNumberChar)).map fun value =>
        (value, (c :: more).drop ((c :: more).takeWhile isNumberChar).length) := by
  have other {d : Char} (differs : isNumberChar d = false) : c ≠ d := by
    rintro rfl
    rw [number] at differs
    cases differs
  have word {d : Char} {letters : List Char} (differs : isNumberChar d = false) :
      (d :: letters).isPrefixOf (c :: more) = false := by
    simp [List.isPrefixOf, Ne.symm (other differs)]
  have solid : isSpace c = false := by
    simp [isSpace, other (d := ' ') rfl, other (d := '\t') rfl, other (d := '\n') rfl,
      other (d := '\r') rfl]
  rw [readValue?, skipSpace_cons solid]
  split
  case h_1 same | h_2 same | h_3 same => exact absurd (List.cons.inj same).1 (other rfl)
  case h_4 =>
    rw [afterWord?_ne "null" (word rfl), afterWord?_ne "true" (word rfl),
      afterWord?_ne "false" (word rfl), afterWord?_ne "NaN" (word rfl),
      afterWord?_ne "Infinity" (word rfl), afterWord?_ne "-Infinity" finite]

theorem readsBack_int (i : Int) : ReadsBack (.int i) := by
  intro level fuel rest stops enough
  obtain ⟨fuel, rfl⟩ : ∃ n, fuel = n + 1 := ⟨fuel - 1, by omega⟩
  obtain ⟨c, more, digits, all, written⟩ := writeInt_digits i
  have digit : c.isDigit = true := all c (digits ▸ List.mem_cons_self ..)
  have number : isNumberChar c = true := by simp [isNumberChar, digit]
  have read : (readNumber? ((writeInt i ++ rest).takeWhile isNumberChar)).map (fun value =>
      (value, (writeInt i ++ rest).drop ((writeInt i ++ rest).takeWhile isNumberChar).length)) =
      some (.int i, rest) := by
    rw [takeWhile_writeInt i stops, readNumber?_writeInt, Option.map_some, List.drop_left]
  rw [write, ← read]
  rcases written with ⟨written, _⟩ | ⟨written, _⟩
  · rw [written, digits, List.cons_append]
    refine readValue?_number number ?_
    simp [List.isPrefixOf, (digit_ne digit (d := '-') rfl).symm]
  · rw [written, digits, List.cons_append, List.cons_append]
    refine readValue?_number rfl ?_
    simp [List.isPrefixOf, (digit_ne digit (d := 'I') rfl).symm]

end Number
section Nested
variable {item : Json} {items : List Json} {key : String} {value : Json}
  {members : List (String × Json)} {level outer fuel : Nat} {rest text : List Char}

theorem stops_cons {c : Char} (other : isNumberChar c = false) : Stops (c :: rest) := by
  intro d here
  cases here
  exact other

theorem stops_newLine (level : Nat) (rest : List Char) : Stops (newLine level ++ rest) :=
  stops_cons rfl

theorem skipSpace_newLine (level : Nat) (text : List Char) :
    skipSpace (newLine level ++ text) = skipSpace text := by
  refine List.dropWhile_append_of_pos fun c member => ?_
  rcases List.mem_cons.mp member with rfl | indent
  · rfl
  · rw [List.eq_of_mem_replicate indent]
    rfl

theorem skipSpace_close {c : Char} (solid : isSpace c = false) :
    skipSpace (newLine outer ++ c :: rest) = c :: rest :=
  (skipSpace_newLine ..).trans (skipSpace_cons solid)

/-- Space in front of a value makes no difference. -/
theorem readValue?_skip {other : List Char} (same : skipSpace text = skipSpace other)
    (fuel : Nat) : readValue? fuel text = readValue? fuel other := by
  cases fuel with
  | zero => rfl
  | succ fuel => rw [readValue?, readValue?, same]

theorem readItems?_newLine (level fuel : Nat) (done : List Json) (text : List Char) :
    readItems? fuel done (newLine level ++ text) = readItems? fuel done text := by
  cases fuel with
  | zero => rfl
  | succ fuel => rw [readItems?, readItems?, readValue?_skip (skipSpace_newLine level text)]

theorem readMembers?_newLine (level fuel : Nat) (done : List (String × Json)) (text : List Char) :
    readMembers? fuel done (newLine level ++ text) = readMembers? fuel done text := by
  cases fuel with
  | zero => rfl
  | succ fuel => rw [readMembers?, readMembers?, skipSpace_newLine]

/-- One item is read, and then what follows decides. -/
theorem readItems?_item (reads : ReadsBack item) (stops : Stops rest) (done : List Json)
    (enough : (write level item).length < fuel) :
    readItems? (fuel + 1) done (write level item ++ rest) =
      match skipSpace rest with
      | ',' :: rest => readItems? fuel (item :: done) rest
      | ']' :: rest => some (.list (item :: done).reverse, rest)
      | _ => none := by
  rw [readItems?, reads level fuel rest stops enough]
  rfl

theorem readMembers?_member (reads : ReadsBack value) (stops : Stops rest)
    (done : List (String × Json)) (enough : (write level value).length < fuel) :
    readMembers? (fuel + 1) done
      (quote key.toList ++ ':' :: ' ' :: (write level value ++ rest)) =
      match skipSpace rest with
      | ',' :: rest => readMembers? fuel ((key, value) :: done) rest
      | '\x7d' :: rest => some (.object ((key, value) :: done).reverse, rest)
      | _ => none := by
  have mark (text : List Char) : skipSpace ('"' :: text) = '"' :: text := skipSpace_cons rfl
  have colon (text : List Char) : skipSpace (':' :: text) = ':' :: text := skipSpace_cons rfl
  have blank : skipSpace (' ' :: (write level value ++ rest)) =
      skipSpace (write level value ++ rest) := rfl
  have read : readValue? fuel (' ' :: (write level value ++ rest)) = some (value, rest) :=
    (readValue?_skip blank fuel).trans (reads level fuel rest stops enough)
  rw [quote, List.cons_append, List.cons_append, List.append_assoc, List.singleton_append,
    readMembers?, mark]
  simp only [readQuoted?_rest, colon, Option.bind_eq_bind, Option.bind_some, String.ofList_toList]
  exact congrArg (Option.bind · _) read

/-- The items of a list are read up to the closing bracket. -/
theorem readItems?_write (reads : ∀ value ∈ item :: items, ReadsBack value) (done : List Json)
    (enough : (write level item ++ writeItems level items).length + 1 < fuel) :
    readItems? fuel done
      (write level item ++ (writeItems level items ++ (newLine outer ++ ']' :: rest))) =
      some (.list (done.reverse ++ item :: items), rest) := by
  induction items generalizing item done fuel with
  | nil =>
    obtain ⟨fuel, rfl⟩ : ∃ n, fuel = n + 1 := ⟨fuel - 1, by omega⟩
    rw [List.length_append] at enough
    have close : skipSpace (newLine outer ++ ']' :: rest) = ']' :: rest := skipSpace_close rfl
    have shorter : (write level item).length < fuel := by omega
    rw [writeItems, List.nil_append, readItems?_item (reads item (List.mem_cons_self ..))
      (stops_newLine outer _) done shorter, close]
    simp
  | cons next items ih =>
    obtain ⟨fuel, rfl⟩ : ∃ n, fuel = n + 1 := ⟨fuel - 1, by omega⟩
    obtain ⟨here, later⟩ := List.forall_mem_cons.mp reads
    rw [writeItems] at enough
    simp only [List.length_cons, List.length_append, List.cons_append] at enough
    have shorter : (write level item).length < fuel := by omega
    have comma (text : List Char) : skipSpace (',' :: text) = ',' :: text := skipSpace_cons rfl
    rw [writeItems, List.cons_append, List.cons_append, List.cons_append,
      readItems?_item here (stops_cons rfl) done shorter, comma]
    simp only [List.append_assoc, readItems?_newLine]
    rw [ih later (item :: done) (by rw [List.length_append]; omega)]
    simp

/-- The members of an object are read up to the closing brace. -/
theorem readMembers?_write (reads : ∀ member ∈ (key, value) :: members, ReadsBack member.2)
    (done : List (String × Json))
    (enough : (write level value ++ writeMembers level members).length + 1 < fuel) :
    readMembers? fuel done (quote key.toList ++ ':' :: ' ' :: (write level value ++
      (writeMembers level members ++ (newLine outer ++ '\x7d' :: rest)))) =
      some (.object (done.reverse ++ (key, value) :: members), rest) := by
  induction members generalizing key value done fuel with
  | nil =>
    obtain ⟨fuel, rfl⟩ : ∃ n, fuel = n + 1 := ⟨fuel - 1, by omega⟩
    have here : ReadsBack value := reads _ (List.mem_cons_self ..)
    rw [List.length_append] at enough
    have close : skipSpace (newLine outer ++ '\x7d' :: rest) = '\x7d' :: rest :=
      skipSpace_close rfl
    have shorter : (write level value).length < fuel := by omega
    rw [writeMembers, List.nil_append, readMembers?_member here (stops_newLine outer _) done shorter,
      close]
    simp
  | cons next members ih =>
    obtain ⟨other, following⟩ := next
    obtain ⟨fuel, rfl⟩ : ∃ n, fuel = n + 1 := ⟨fuel - 1, by omega⟩
    obtain ⟨here, later⟩ := List.forall_mem_cons.mp reads
    dsimp only at here
    rw [writeMembers] at enough
    simp only [List.length_cons, List.length_append, List.cons_append] at enough
    have shorter : (write level value).length < fuel := by omega
    have comma (text : List Char) : skipSpace (',' :: text) = ',' :: text := skipSpace_cons rfl
    rw [writeMembers, List.cons_append, List.cons_append, List.cons_append, List.cons_append,
      readMembers?_member here (stops_cons rfl) done shorter, comma]
    simp only [List.append_assoc, List.cons_append, readMembers?_newLine]
    rw [ih later ((key, value) :: done) (by rw [List.length_append]; omega)]
    simp

/-- The text of a value begins with no space and with no closing bracket. -/
theorem write_begins (exact : value.Exact) (level : Nat) :
    ∃ c more, write level value = c :: more ∧ isSpace c = false ∧ c ≠ ']' := by
  cases exact with
  | null => exact ⟨'n', _, rfl, rfl, by decide⟩
  | bool value => cases value <;> exact ⟨_, _, rfl, rfl, by decide⟩
  | int i =>
    obtain ⟨c, more, digits, all, written⟩ := writeInt_digits i
    have digit : c.isDigit = true := all c (digits ▸ List.mem_cons_self ..)
    rcases written with ⟨written, _⟩ | ⟨written, _⟩
    · refine ⟨c, more, by rw [write, written, digits], ?_, digit_ne digit rfl⟩
      simp [isSpace, digit_ne digit (d := ' ') rfl, digit_ne digit (d := '\t') rfl,
        digit_ne digit (d := '\n') rfl, digit_ne digit (d := '\r') rfl]
    · exact ⟨'-', _, by rw [write, written], rfl, by decide⟩
  | text value => exact ⟨'"', _, rfl, rfl, by decide⟩
  | @list items _ =>
    cases items with
    | nil => exact ⟨'[', _, rfl, rfl, by decide⟩
    | cons item items => exact ⟨'[', _, rfl, rfl, by decide⟩
  | @object members _ =>
    cases members with
    | nil => exact ⟨'\x7b', _, rfl, rfl, by decide⟩
    | cons member members => exact ⟨'\x7b', _, rfl, rfl, by decide⟩

theorem readValue?_list {c : Char} {more : List Char} (begins : skipSpace text = c :: more)
    (other : c ≠ ']') : readValue? (fuel + 1) ('[' :: text) = readItems? fuel [] (c :: more) := by
  have mark : skipSpace ('[' :: text) = '[' :: text := skipSpace_cons rfl
  rw [readValue?, mark]
  simp only [begins]
  split
  · rename_i same
    exact absurd (List.cons.inj same).1 other
  · rfl

theorem readValue?_object {c : Char} {more : List Char} (begins : skipSpace text = c :: more)
    (other : c ≠ '\x7d') :
    readValue? (fuel + 1) ('\x7b' :: text) = readMembers? fuel [] (c :: more) := by
  have mark : skipSpace ('\x7b' :: text) = '\x7b' :: text := skipSpace_cons rfl
  rw [readValue?, mark]
  simp only [begins]
  split
  · rename_i same
    exact absurd (List.cons.inj same).1 other
  · rfl

theorem readsBack_list (exact : ∀ value ∈ items, value.Exact)
    (reads : ∀ value ∈ items, ReadsBack value) : ReadsBack (.list items) := by
  rintro level (_ | fuel) rest _ enough
  · cases enough
  · cases items with
    | nil => rfl
    | cons item items =>
      obtain ⟨c, more, begins, solid, other⟩ :=
        write_begins (exact item (List.mem_cons_self ..)) (level + 1)
      rw [write] at enough ⊢
      simp only [List.length_cons, List.length_append, List.cons_append] at enough
      have read : readItems? fuel [] (write (level + 1) item ++ (writeItems (level + 1) items ++
          (newLine level ++ ']' :: rest))) = some (.list (item :: items), rest) :=
        readItems?_write reads [] (by rw [List.length_append]; omega)
      simp only [List.append_assoc, List.cons_append, List.nil_append, begins] at read ⊢
      rw [readValue?_list (skipSpace_close solid) other]
      exact read

theorem readsBack_object (reads : ∀ member ∈ members, ReadsBack member.2) :
    ReadsBack (.object members) := by
  rintro level (_ | fuel) rest _ enough
  · cases enough
  · cases members with
    | nil => rfl
    | cons member members =>
      obtain ⟨key, value⟩ := member
      rw [write] at enough ⊢
      simp only [List.length_cons, List.length_append, List.cons_append] at enough
      have read : readMembers? fuel [] (quote key.toList ++ ':' :: ' ' ::
          (write (level + 1) value ++ (writeMembers (level + 1) members ++
            (newLine level ++ '\x7d' :: rest)))) = some (.object ((key, value) :: members), rest) :=
        readMembers?_write reads [] (by rw [List.length_append]; omega)
      simp only [quote, List.append_assoc, List.cons_append, List.nil_append] at read ⊢
      rw [readValue?_object (skipSpace_close rfl) (by decide)]
      exact read

theorem readsBack_text (text : String) : ReadsBack (.text text) := by
  rintro level (_ | fuel) rest _ enough
  · cases enough
  · have mark (letters : List Char) : skipSpace ('"' :: letters) = '"' :: letters :=
      skipSpace_cons rfl
    rw [write, quote, List.cons_append, List.cons_append, List.append_assoc,
      List.singleton_append, readValue?, mark]
    simp only [readQuoted?_rest, Option.map_some, String.ofList_toList]

/-- Every value without floating-point numbers is read back from its text. -/
theorem readsBack (exact : value.Exact) : ReadsBack value := by
  induction exact with
  | null =>
    rintro level (_ | fuel) rest _ enough
    · cases enough
    · rfl
  | bool value =>
    rintro level (_ | fuel) rest _ enough
    · cases enough
    · cases value <;> rfl
  | int i => exact readsBack_int i
  | text text => exact readsBack_text text
  | list all ih => exact readsBack_list all ih
  | object _ ih => exact readsBack_object ih

/-- A printed value is parsed back, also with blank lines behind it. -/
theorem parse?_print (exact : value.Exact) (ending : List Char)
    (blank : ∀ c ∈ ending, isSpace c = true) :
    parse? (value.print ++ String.ofList ending) = some value := by
  have stops : Stops ending := by
    intro c first
    have space := blank c (List.mem_of_mem_head? first)
    simp only [isSpace, Bool.or_eq_true, decide_eq_true_eq] at space
    rcases space with ((rfl | rfl) | rfl) | rfl <;> rfl
  have nothing : skipSpace ending = [] := List.dropWhile_eq_nil_iff.mpr blank
  have letters : (value.print ++ String.ofList ending).toList = write 0 value ++ ending := by
    rw [String.toList_append, print, String.toList_ofList, String.toList_ofList]
  have length : (value.print ++ String.ofList ending).length =
      (write 0 value).length + ending.length := by
    rw [← String.length_toList, letters, List.length_append]
  rw [parse?, letters, readsBack exact 0 _ ending stops (by omega)]
  simp [nothing]

end Nested
end LineBudget.Json
