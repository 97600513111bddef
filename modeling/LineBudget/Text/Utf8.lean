/-! UTF-8 on octets. One step either reads a character or finds the longest start of one that the
octets allow; the two decoders differ only in what they do with such a start. -/
namespace LineBudget.Text.Utf8

/-- Why octets do not begin with a character. -/
inductive Defect where
  | invalidStart
  | invalidContinuation
  | cutOff
  deriving DecidableEq, Repr

/-- What a leading octet promises: how many octets follow, the bits it gives to the character,
and the range of the octet after it. The range rules out overlong forms, surrogates and
everything past the last code point. -/
structure Lead where
  following : Nat
  bits : Nat
  low : UInt8
  high : UInt8

def Lead.ofOctet (b : UInt8) : Option Lead :=
  let n := b.toNat
  if n < 0xC2 then none
  else if n < 0xE0 then some ⟨1, n - 0xC0, 0x80, 0xBF⟩
  else if n = 0xE0 then some ⟨2, 0, 0xA0, 0xBF⟩
  else if n = 0xED then some ⟨2, 13, 0x80, 0x9F⟩
  else if n < 0xF0 then some ⟨2, n - 0xE0, 0x80, 0xBF⟩
  else if n = 0xF0 then some ⟨3, 0, 0x90, 0xBF⟩
  else if n < 0xF4 then some ⟨3, n - 0xF0, 0x80, 0xBF⟩
  else if n = 0xF4 then some ⟨3, 4, 0x80, 0x8F⟩
  else none

/-- The end of one step: the character or the defect, and the octets that are left. -/
structure Step where
  found : Except Defect Char
  rest : List UInt8

/-- Reads the octets that follow a leading one. It stops before the first octet out of range. -/
def readFollowing (count bits : Nat) (low high : UInt8) (octets : List UInt8) : Step :=
  match count, octets with
  | 0, rest => ⟨.ok (Char.ofNat bits), rest⟩
  | _ + 1, [] => ⟨.error .cutOff, []⟩
  | count + 1, b :: rest =>
    if low ≤ b ∧ b ≤ high then readFollowing count (bits * 64 + b.toNat % 64) 0x80 0xBF rest
    else ⟨.error .invalidContinuation, b :: rest⟩

/-- One step on octets that begin with `b`. At least `b` is consumed. -/
def readStep (b : UInt8) (octets : List UInt8) : Step :=
  if b < 0x80 then ⟨.ok (Char.ofNat b.toNat), octets⟩
  else match Lead.ofOctet b with
    | none => ⟨.error .invalidStart, octets⟩
    | some lead => readFollowing lead.following lead.bits lead.low lead.high octets

theorem readFollowing_rest_le (count bits : Nat) (low high : UInt8) (octets : List UInt8) :
    (readFollowing count bits low high octets).rest.length ≤ octets.length := by
  fun_induction readFollowing count bits low high octets <;> simp_all
  omega

theorem readStep_rest_le (b : UInt8) (octets : List UInt8) :
    (readStep b octets).rest.length ≤ octets.length := by
  unfold readStep
  split
  · exact Nat.le_refl _
  · split
    · exact Nat.le_refl _
    · exact readFollowing_rest_le ..

/-- The character that stands for octets that spell none. -/
def replacement : Char := '\uFFFD'

/-- Adds the decoded characters in front of `done`, which holds the text so far in reverse. -/
def decodeReplacingOnto (done : List Char) : List UInt8 → List Char
  | [] => done.reverse
  | b :: octets =>
    let step := readStep b octets
    decodeReplacingOnto
      ((match step.found with | .ok c => c | .error _ => replacement) :: done) step.rest
termination_by octets => octets.length
decreasing_by
  have := readStep_rest_le b octets
  simp only [List.length_cons]
  omega

/-- Decodes any octets; every longest broken start of a character becomes one U+FFFD. -/
def decodeReplacing (octets : List UInt8) : List Char := decodeReplacingOnto [] octets

/-- The first place where octets are not UTF-8. -/
structure Fault where
  defect : Defect
  position : Nat
  /-- The broken start of a character, never empty. -/
  broken : List UInt8

def decodeOnto (done : List Char) (position : Nat) : List UInt8 → Except Fault (List Char)
  | [] => .ok done.reverse
  | b :: octets =>
    let step := readStep b octets
    match step.found with
    | .ok c => decodeOnto (c :: done) (position + c.utf8Size) step.rest
    | .error defect =>
      .error ⟨defect, position, (b :: octets).take (octets.length + 1 - step.rest.length)⟩
termination_by octets => octets.length
decreasing_by
  have := readStep_rest_le b octets
  simp only [List.length_cons]
  omega

/-- Decodes octets that are UTF-8 throughout. -/
def decode (octets : List UInt8) : Except Fault (List Char) := decodeOnto [] 0 octets

def encode (text : String) : List UInt8 := text.toUTF8.toList

def Defect.message : Defect → String
  | .invalidStart => "invalid start byte"
  | .invalidContinuation => "invalid continuation byte"
  | .cutOff => "unexpected end of data"

/-- Two lower-case hexadecimal digits. -/
def hexOctet (b : UInt8) : String :=
  let digit (n : Nat) : Char := Nat.digitChar n
  String.ofList [digit (b.toNat / 16), digit (b.toNat % 16)]

/-- Names the broken octet, or the first and last place of several. -/
def Fault.message (fault : Fault) : String :=
  let place := match fault.broken with
    | [b] => s!"byte 0x{hexOctet b} in position {fault.position}"
    | broken => s!"bytes in position {fault.position}-{fault.position + broken.length - 1}"
  s!"'utf-8' codec can't decode {place}: {fault.defect.message}"

end LineBudget.Text.Utf8
