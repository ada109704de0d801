/-! # Binary floating-point data, exactly

A datum of a binary interchange format is an exact number: a sign, a significand and a power of two.
Every operation computes the exact quotient of natural numbers first and rounds it once, to the
nearest datum and on a tie to the one with an even significand.
-/

namespace QueryRewriting.Decimal

/-- A binary interchange format: the bits of its significand and its largest exponent. -/
structure Format where
  precision : Nat
  maxExponent : Int

/-- The exponent of the least positive datum, as a power of two. -/
def Format.minQuantum (f : Format) : Int :=
  2 - f.maxExponent - f.precision

/-- The exponent of the largest data, which is that of their last digit. -/
def Format.maxQuantum (f : Format) : Int :=
  f.maxExponent + 1 - f.precision

/-- The format of 32 bits. -/
def Format.single : Format := ⟨24, 127⟩

/-- The format of 64 bits. -/
def Format.double : Format := ⟨53, 1023⟩

/-- A datum of a format. A finite one stands for `± significand * 2 ^ exponent`, and is kept with
the largest significand below `2 ^ precision`, so that equal data are equal terms (zeros keep their
sign). -/
inductive Binary (f : Format) where
  | nan
  | infinite (negative : Bool)
  | finite (negative : Bool) (significand : Nat) (exponent : Int)
  deriving DecidableEq, Repr

/-- The data of single precision. -/
abbrev Single := Binary Format.single

/-- The data of double precision. -/
abbrev Double := Binary Format.double

/-- The natural quotient nearest to `num / den`, on a tie the even one. -/
def divRound (num den : Nat) : Nat :=
  let quotient := num / den
  let twice := 2 * (num % den)
  if twice < den || (twice == den && quotient % 2 == 0) then quotient else quotient + 1

/-- The fraction `num / den` times a power of two, as numerator and denominator. -/
def scaleBinary (num den : Nat) (power : Int) : Nat × Nat :=
  if 0 ≤ power then (num * Nat.pow 2 power.toNat, den)
  else (num, den * Nat.pow 2 (-power).toNat)

/-- The greatest `k` with `2 ^ k ≤ num / den`, for positive `num` and `den`. -/
def floorLog2 (num den : Nat) : Int :=
  let guess : Int := (num.log2 : Int) - den.log2
  -- The difference of the logarithms is never too small, and too large by one at most.
  let (scaled, unit) := scaleBinary num den (-guess)
  if unit ≤ scaled then guess else guess - 1

namespace Binary

variable {f g : Format}

/-- The zero of a sign. -/
def zero (negative : Bool) : Binary f := .finite negative 0 f.minQuantum

/-- The datum nearest to `± num / den`, for a positive `den`; infinite beyond the largest one. -/
def ofFraction (negative : Bool) (num den : Nat) : Binary f :=
  if num = 0 then zero negative
  else
    let quantum := max (floorLog2 num den + 1 - f.precision) f.minQuantum
    let (scaled, unit) := scaleBinary num den (-quantum)
    let rounded := divRound scaled unit
    -- Rounding up may carry into one more digit, which makes the quantum twice as large.
    let (significand, exponent) :=
      if rounded = Nat.pow 2 f.precision then (Nat.pow 2 (f.precision - 1), quantum + 1)
      else (rounded, quantum)
    if significand = 0 then zero negative
    else if f.maxQuantum < exponent then .infinite negative
    else .finite negative significand exponent

/-- The datum nearest to a natural number. -/
def ofNat (n : Nat) : Binary f := ofFraction false n 1

/-- The datum nearest to an integer. -/
def ofInt (n : Int) : Binary f := ofFraction (n < 0) n.natAbs 1

/-- The largest finite datum. -/
def largest : Binary f := .finite false (Nat.pow 2 f.precision - 1) f.maxQuantum

/-- The magnitude of a significand and its exponent, as numerator and denominator. -/
def magnitude (significand : Nat) (exponent : Int) : Nat × Nat :=
  scaleBinary significand 1 exponent

/-- The nearest datum of another format. -/
def convert : Binary f → Binary g
  | .nan => .nan
  | .infinite negative => .infinite negative
  | .finite negative significand exponent =>
    let (num, den) := magnitude significand exponent
    ofFraction negative num den

/-- The datum of the other sign. -/
def neg : Binary f → Binary f
  | .nan => .nan
  | .infinite negative => .infinite (!negative)
  | .finite negative significand exponent => .finite (!negative) significand exponent

/-- Whether a datum bears a minus sign; zero may, and what is no number does not. -/
def isNegative : Binary f → Bool
  | .nan => false
  | .infinite negative => negative
  | .finite negative _ _ => negative

/-- Whether a datum is zero, of either sign. -/
def isZero : Binary f → Bool
  | .finite _ significand _ => significand == 0
  | _ => false

/-- Whether a datum is finite. -/
def isFinite : Binary f → Bool
  | .finite .. => true
  | _ => false

/-- Greater than zero; a datum that is no number is not. -/
def isPositive : Binary f → Bool
  | .nan => false
  | .infinite negative => !negative
  | .finite negative significand _ => !negative && significand != 0

/-- The product, rounded to the nearest datum. Zero times infinity is no number. -/
def mul : Binary f → Binary f → Binary f
  | .nan, _ | _, .nan => .nan
  | .finite s m d, .finite t n e =>
    let (num, den) := magnitude (m * n) (d + e)
    ofFraction (s != t) num den
  | x, y => if x.isZero || y.isZero then .nan else .infinite (x.isNegative != y.isNegative)

/-- The quotient by a datum that is neither zero, infinite nor no number, rounded once. -/
def div : Binary f → Binary f → Binary f
  | .finite s m d, .finite t n e =>
    let (num, den) := scaleBinary m n (d - e)
    ofFraction (s != t) num den
  | .infinite s, y => .infinite (s != y.isNegative)
  | _, _ => .nan

/-- Whether `x` is below `y`, for data greater than zero. -/
def ltPositive : Binary f → Binary f → Bool
  | .finite _ m d, .finite _ n e =>
    let (left, leftDen) := magnitude m d
    let (right, rightDen) := magnitude n e
    left * rightDen < right * leftDen
  | .finite .., .infinite _ => true
  | _, _ => false

/-- The lesser of a datum and a number greater than zero. -/
def atMost (x bound : Binary f) : Binary f :=
  match x with
  | .nan => bound
  | _ => if x.isPositive && bound.ltPositive x then bound else x

end Binary

end QueryRewriting.Decimal
