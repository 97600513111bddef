/-! Binary floating-point numbers of 64 bits, as exact numbers on their grid. A finite magnitude is
a whole number of units of 2^-1074, so rounding and comparison are exact integer arithmetic. -/
namespace LineBudget.Number

inductive Binary64 where
  | nan
  | infinite (negative : Bool)
  /-- The value is `units` times 2^-1074. -/
  | finite (negative : Bool) (units : Nat)
  deriving DecidableEq, Repr

namespace Binary64

/-- Units in one. -/
def unitsInOne : Nat := Nat.pow 2 1074

/-- The first magnitude that is out of range. -/
def overflow : Nat := Nat.pow 2 (1024 + 1074)

/-- Quotient to the nearest integer, a half to the even neighbour. -/
def divRound (num den : Nat) : Nat :=
  let q := num / den
  let twice := 2 * (num % den)
  if twice < den then q
  else if den < twice then q + 1
  else q + q % 2

/-- Spacing of the numbers around a magnitude of so many units. -/
def spacing (units : Nat) : Nat := Nat.pow 2 (Nat.log2 units - 52)

/-- The number nearest to `num / den`, a half to the even mantissa. -/
def ofFraction (negative : Bool) (num den : Nat) : Binary64 :=
  let step := spacing (num * unitsInOne / den)
  let units := divRound (num * unitsInOne) (den * step) * step
  if units < overflow then .finite negative units else .infinite negative

/-- The number nearest to `digits` times ten to `exponent`. Exponents so far out that the result
is certain are not written out. -/
def ofDecimal (negative : Bool) (digits : Nat) (exponent : Int) : Binary64 :=
  let size := (Nat.toDigits 10 digits).length
  if digits = 0 then .finite negative 0
  else if 400 < exponent + size then .infinite negative
  else if exponent + size < -400 then .finite negative 0
  else if 0 ≤ exponent then ofFraction negative (digits * Nat.pow 10 exponent.toNat) 1
  else ofFraction negative digits (Nat.pow 10 (-exponent).toNat)

def ofInt (i : Int) : Binary64 := ofFraction (i < 0) i.natAbs 1

/-- Both zeros, and nothing else. -/
def isZero : Binary64 → Bool
  | .finite _ 0 => true
  | _ => false

def negate : Binary64 → Binary64
  | .nan => .nan
  | .infinite s => .infinite !s
  | .finite s u => .finite (!s) u

/-- The signed number of units of a finite value. -/
def signedUnits (negative : Bool) (units : Nat) : Int := if negative then -units else units

/-- Rounded sum. -/
def add : Binary64 → Binary64 → Binary64
  | .finite s u, .finite t v =>
    let sum := signedUnits s u + signedUnits t v
    if sum = 0 then .finite (s && t) 0 else ofFraction (sum < 0) sum.natAbs unitsInOne
  | .infinite s, .infinite t => if s = t then .infinite s else .nan
  | .infinite s, .finite _ _ | .finite _ _, .infinite s => .infinite s
  | .nan, _ | _, .nan => .nan

/-- Rounded product. -/
def mul : Binary64 → Binary64 → Binary64
  | .finite s u, .finite t v => ofFraction (s != t) (u * v) (unitsInOne * unitsInOne)
  | .infinite s, .infinite t => .infinite (s != t)
  | .infinite s, .finite t u | .finite t u, .infinite s =>
    if u = 0 then .nan else .infinite (s != t)
  | .nan, _ | _, .nan => .nan

end Binary64

end LineBudget.Number
