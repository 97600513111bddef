import LineBudget.Number.Binary64

/-! The decimal text of a binary number: the fewest digits that read back as the same number, of
two such the nearer. -/
namespace LineBudget.Number

/-- A positive decimal `digits * 10^(point - length of digits)`: the point stands after `point`
digits. -/
structure Decimal where
  digits : List Char
  point : Int
  deriving DecidableEq, Repr

namespace Binary64

/-- Magnitudes that round to a number, in quarters of a unit; the ends count if the mantissa is
even. -/
structure Interval where
  low : Nat
  high : Nat
  closed : Bool

/-- The interval below a power of two is half as wide as the one above it. -/
def interval (units : Nat) : Interval :=
  let step := spacing units
  let mantissa := units / step
  let below := if mantissa = Nat.pow 2 52 ∧ step ≠ 1 then step else 2 * step
  ⟨4 * units - below, 4 * units + 2 * step, mantissa % 2 = 0⟩

/-- `num / den` quarters of a unit lie in the interval. -/
def Interval.holds (i : Interval) (num den : Nat) : Bool :=
  if i.closed then i.low * den ≤ num && num ≤ i.high * den
  else i.low * den < num && num < i.high * den

/-- Digits before the decimal point of a positive number of units, at most zero for fractions: the
least `point` with the number below ten to `point`. -/
def pointOf (units : Nat) : Int :=
  let whole := units / unitsInOne
  if whole ≠ 0 then (Nat.toDigits 10 whole).length
  else go 400 0
where
  go : Nat → Nat → Int
    | 0, _ => 0
    | fuel + 1, places =>
      if unitsInOne ≤ units * Nat.pow 10 (places + 1) then -places else go fuel (places + 1)

/-- The neighbour with `count` digits that reads back as the number, if there is one. -/
def decimalOf? (units count : Nat) (point : Int) : Option Decimal :=
  let exponent := point - count
  let up := Nat.pow 10 exponent.toNat
  let down := Nat.pow 10 (-exponent).toNat
  -- the grid point d stands for d * up / down, which is d * up * 4 * unitsInOne / down quarters
  let below := units * down / (up * unitsInOne)
  let quarters (d : Nat) : Nat := d * up * 4 * unitsInOne
  let fits (d : Nat) : Bool := (interval units).holds (quarters d) down
  let away (d : Nat) : Nat :=
    (Int.ofNat (quarters d) - Int.ofNat (4 * units * down)).natAbs
  let write (d : Nat) : Decimal :=
    let text := Nat.toDigits 10 d
    ⟨text, exponent + text.length⟩
  match fits below, fits (below + 1) with
  | true, true =>
    if away (below + 1) < away below ∨ (away (below + 1) = away below ∧ below % 2 = 1) then
      some (write (below + 1))
    else some (write below)
  | true, false => some (write below)
  | false, true => some (write (below + 1))
  | false, false => none

/-- The shortest decimal of a positive number. Seventeen digits always suffice. -/
def shortest (units : Nat) : Decimal :=
  ((List.range 17).findSome? fun n => decimalOf? units (n + 1) (pointOf units)).getD ⟨['0'], 0⟩

def dropTrailingZeros (digits : List Char) : List Char :=
  (digits.reverse.dropWhile (· = '0')).reverse

/-- Positional from 10^-4 up to below 10^16, with a digit on both sides of the point; else with an
exponent of at least two digits. -/
def Decimal.text (d : Decimal) : List Char :=
  let digits := dropTrailingZeros d.digits
  if -4 < d.point ∧ d.point ≤ 16 then
    if d.point ≤ 0 then
      '0' :: '.' :: List.replicate (-d.point).toNat '0' ++ digits
    else
      let whole := digits.take d.point.toNat
      let fraction := digits.drop d.point.toNat
      whole ++ List.replicate (d.point.toNat - whole.length) '0' ++
        '.' :: (if fraction.isEmpty then ['0'] else fraction)
  else
    let exponent := d.point - 1
    let size := Nat.toDigits 10 exponent.natAbs
    let size := if size.length < 2 then '0' :: size else size
    let head := match digits with
      | [] => ['0']
      | [c] => [c]
      | c :: rest => c :: '.' :: rest
    head ++ 'e' :: (if exponent < 0 then '-' else '+') :: size

def text : Binary64 → String
  | .nan => "nan"
  | .infinite negative => if negative then "-inf" else "inf"
  | .finite negative units =>
    let magnitude := if units = 0 then "0.0" else String.ofList (Decimal.text (shortest units))
    if negative then "-" ++ magnitude else magnitude

end Binary64

end LineBudget.Number
