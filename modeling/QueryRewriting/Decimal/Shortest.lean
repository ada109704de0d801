import QueryRewriting.Decimal.Binary

/-! # Shortest decimals

The decimal written for a finite datum is the one with the fewest digits among those that round back
to it; among several of that length it is the nearest to the datum's exact value, and on a tie the
one that ends in an even digit. It is found on the grids of 1, 2, 3, … digits: if any point of a
grid rounds back, one of the two neighbours of the exact value on that grid does.
-/

namespace QueryRewriting.Decimal

/-- The decimal number `digits * 10 ^ exponent`. -/
structure ScaledDigits where
  digits : Nat
  exponent : Int
  deriving DecidableEq, Repr

/-- The fraction `num / den` times a power of ten, as numerator and denominator. -/
def scaleDecimal (num den : Nat) (power : Int) : Nat × Nat :=
  if 0 ≤ power then (num * Nat.pow 10 power.toNat, den)
  else (num, den * Nat.pow 10 (-power).toNat)

/-- The number of decimal digits of a natural number; zero has one. -/
def digitCount (n : Nat) : Nat := (Nat.toDigits 10 n).length

/-- The power of ten just above the fraction `num / den`: the position of its decimal point. -/
def pointPosition (num den : Nat) : Int :=
  if den ≤ num then digitCount (num / den)
  else
    let zeros := digitCount (den / num) - 1
    if den ≤ num * Nat.pow 10 zeros then 1 - zeros else -zeros

/-- The fractions that round to a datum: those between `low / den` and `high / den`, the ends
included when `closed`. The datum itself is `mid / den`. -/
structure RoundingInterval where
  low : Nat
  mid : Nat
  high : Nat
  den : Nat
  closed : Bool

/-- The fractions that round to `significand * 2 ^ exponent`. Below a power of two the gap to the
datum underneath is half as wide, unless the exponent is already the least. -/
def roundingInterval (f : Format) (significand : Nat) (exponent : Int) : RoundingInterval :=
  -- Below a power of two the data are twice as close, so that side of the interval is half as wide.
  let narrow := significand = Nat.pow 2 (f.precision - 1) ∧ f.minQuantum < exponent
  let (unit, den) := scaleBinary 1 1 (exponent - 2)
  { low := (if narrow then 4 * significand - 1 else 4 * significand - 2) * unit
    mid := 4 * significand * unit
    high := (4 * significand + 2) * unit
    den
    closed := significand % 2 == 0 }

/-- Whether the fraction `num / den` rounds to the datum. -/
def RoundingInterval.contains (interval : RoundingInterval) (num den : Nat) : Bool :=
  let low := interval.low * den
  let point := num * interval.den
  let high := interval.high * den
  (low < point && point < high) || (interval.closed && (low == point || point == high))

/-- The point of the grid of step `10 ^ power` that stands for the datum, if one of the two
neighbours of its exact value rounds to it. -/
def RoundingInterval.onGrid? (interval : RoundingInterval) (power : Int) : Option Nat :=
  let (num, den) := scaleDecimal interval.mid interval.den (-power)
  let below := num / den
  let fits (n : Nat) : Bool :=
    let (pointNum, pointDen) := scaleDecimal n 1 power
    interval.contains pointNum pointDen
  match fits below, fits (below + 1) with
  | true, true => some (divRound num den)
  | true, false => some below
  | false, true => some (below + 1)
  | false, false => none

/-- The first grid with a point for the datum, among those of `count` digits and up to `fuel` more.
-/
def RoundingInterval.search (interval : RoundingInterval) (position : Int) (count : Nat) :
    Nat → ScaledDigits
  | 0 =>
    let (num, den) := scaleDecimal interval.mid interval.den (count - position)
    ⟨divRound num den, position - count⟩
  | fuel + 1 =>
    match interval.onGrid? (position - count) with
    | some digits => ⟨digits, position - count⟩
    | none => interval.search position (count + 1) fuel

/-- Moves zeros at the end of the digits into the exponent. -/
def ScaledDigits.strip (fuel : Nat) (d : ScaledDigits) : ScaledDigits :=
  match fuel with
  | 0 => d
  | fuel + 1 =>
    if d.digits ≠ 0 ∧ d.digits % 10 = 0 then
      strip fuel ⟨d.digits / 10, d.exponent + 1⟩
    else d

/-- The shortest decimal that rounds to `significand * 2 ^ exponent`. -/
def shortest (f : Format) (significand : Nat) (exponent : Int) : ScaledDigits :=
  let interval := roundingInterval f significand exponent
  let found := interval.search (pointPosition interval.mid interval.den) 1 (f.precision / 3)
  found.strip (digitCount found.digits)

end QueryRewriting.Decimal
