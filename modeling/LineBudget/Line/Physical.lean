import LineBudget.Text.Utf8

/-! The physical lines of a file, read with a cap on their length, so that an oversized line is
noticed before all of it is read. -/
namespace LineBudget.Line

def lineFeed : UInt8 := 0x0A
def carriageReturn : UInt8 := 0x0D

/-- How many octets one read may return for lines of at most `limit` octets: the limit and a line
feed. A limit below -1 leaves reads unbounded, and -1 lets none return anything. -/
def readCap (limit : Int) : Option Nat :=
  if limit < -1 then none else some (limit + 1).toNat

/-- What one read returns: the octets up to and including the next line feed, cut at the cap. -/
def readOnce (cap : Option Nat) (octets : List UInt8) : List UInt8 :=
  let line := octets.takeWhile (· != lineFeed)
  let whole := line ++ (octets.drop line.length).take 1
  match cap with
  | none => whole
  | some n => whole.take n

def dropReturn (line : List UInt8) : List UInt8 :=
  if line.getLast? = some carriageReturn then line.dropLast else line

structure TooLong where
  limit : Int
  deriving DecidableEq, Repr

/-- One read as a line: its terminator is dropped, and without one it must not exceed the limit. -/
def lineOfRead (limit : Int) (read : List UInt8) : Except TooLong (List UInt8) :=
  if read.getLast? = some lineFeed then .ok (dropReturn read.dropLast)
  else if limit < read.length then .error ⟨limit⟩
  else .ok (dropReturn read)

theorem length_readOnce_le (cap : Option Nat) (octets : List UInt8) :
    (readOnce cap octets).length ≤ octets.length := by
  have whole : (octets.takeWhile (· != lineFeed) ++
      (octets.drop (octets.takeWhile (· != lineFeed)).length).take 1).length ≤ octets.length := by
    have := ( List.takeWhile_prefix (p := (· != lineFeed)) (l := octets)).length_le
    simp only [List.length_append, List.length_take, List.length_drop]
    omega
  cases cap with
  | none => exact whole
  | some n =>
    simp only [readOnce, List.length_take]
    omega

/-- Reads on from `octets`; `done` holds the lines before them in reverse. -/
def readOnto (limit : Int) (done : List (List UInt8)) (octets : List UInt8) :
    Except TooLong (List (List UInt8)) :=
  match _reading : readOnce (readCap limit) octets with
  | [] => .ok done.reverse
  | b :: rest => match lineOfRead limit (b :: rest) with
    | .error e => .error e
    | .ok line => readOnto limit (line :: done) (octets.drop (rest.length + 1))
termination_by octets.length
decreasing_by
  have := length_readOnce_le (readCap limit) octets
  simp_all only [List.length_cons, List.length_drop]
  omega

/-- The lines of a file without their terminators. A last line without one still counts. -/
def octetLines (limit : Int) (octets : List UInt8) : Except TooLong (List (List UInt8)) :=
  readOnto limit [] octets

/-- The decoded lines of a file. Octets that are not UTF-8 become U+FFFD, so a line in another
encoding is never taken for a blank one. -/
def textLines (limit : Int) (octets : List UInt8) : Except TooLong (List (List Char)) :=
  (octetLines limit octets).map (·.map Text.Utf8.decodeReplacing)

end LineBudget.Line
