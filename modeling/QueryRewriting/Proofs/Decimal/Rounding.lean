import Mathlib.Algebra.Order.Field.Power
import Mathlib.Algebra.Order.Field.Rat
import Mathlib.Tactic.FieldSimp
import Mathlib.Tactic.Positivity
import Mathlib.Tactic.Ring
import QueryRewriting.Decimal.Binary

/-! # Where rounding ends in zero

A fraction is rounded to a multiple of the quantum that its size calls for, but of no finer one than
the least. So what is rounded keeps its leading bit unless the least quantum is already more than
that, and a fraction becomes zero exactly if it is at most half of the least quantum. -/

namespace QueryRewriting.Decimal

/-- The absolute value of a finite datum; what is infinite or no number has none, which is written
zero. -/
def Binary.size {f : Format} : Binary f → ℚ
  | .finite _ significand exponent => significand * 2 ^ exponent
  | _ => 0

/-! ## Scaling -/

/-- A fraction keeps a positive denominator when it is scaled. -/
theorem scaleBinary_pos {den : Nat} (positive : 0 < den) (num : Nat) (power : Int) :
    0 < (scaleBinary num den power).2 := by
  unfold scaleBinary
  split
  · exact positive
  · exact Nat.mul_pos positive (Nat.pow_pos (by decide))

/-- Scaling multiplies by a power of two. -/
theorem scaleBinary_ratio (num den : Nat) (power : Int) :
    ((scaleBinary num den power).1 : ℚ) / (scaleBinary num den power).2 =
      num / den * 2 ^ power := by
  unfold scaleBinary
  by_cases natural : 0 ≤ power
  · obtain ⟨n, rfl⟩ := Int.eq_ofNat_of_zero_le natural
    rw [if_pos natural]
    simp only [Nat.pow_eq, Nat.cast_mul, Nat.cast_pow, Nat.cast_ofNat, Int.toNat_natCast,
      zpow_natCast]
    ring
  · obtain ⟨n, same⟩ := Int.eq_ofNat_of_zero_le (show 0 ≤ -power by omega)
    obtain rfl : power = -n := by omega
    rw [if_neg natural]
    simp only [Nat.pow_eq, Nat.cast_mul, Nat.cast_pow, Nat.cast_ofNat, neg_neg, Int.toNat_natCast,
      zpow_neg, zpow_natCast]
    field_simp

/-! ## The nearest natural number -/

/-- A quotient is rounded to zero if it is at most a half. -/
theorem divRound_eq_zero_iff {num den : Nat} (positive : 0 < den) :
    divRound num den = 0 ↔ 2 * num ≤ den := by
  unfold divRound
  by_cases small : num < den
  · rw [Nat.div_eq_of_lt small, Nat.mod_eq_of_lt small]
    by_cases half : 2 * num ≤ den
    · have down : (decide (2 * num < den) || (2 * num == den && 0 % 2 == 0)) = true := by
        simp only [Nat.zero_mod, BEq.rfl, Bool.and_true, Bool.or_eq_true, decide_eq_true_eq,
          beq_iff_eq]
        omega
      simp only [down, if_true, half]
    · have up : (decide (2 * num < den) || (2 * num == den && 0 % 2 == 0)) = false := by
        simp only [Nat.zero_mod, BEq.rfl, Bool.and_true, Bool.or_eq_false_iff,
          decide_eq_false_iff_not, beq_eq_false_iff_ne]
        omega
      simp only [up, half, Bool.false_eq_true, if_false, iff_false]
      omega
  · have whole : 0 < num / den := Nat.div_pos (Nat.le_of_not_lt small) positive
    have large : ¬ 2 * num ≤ den := by omega
    simp only [large, iff_false]
    split <;> omega

/-- In units of a power of two a fraction is rounded to zero if it is at most half of one. -/
theorem divRound_scaleBinary_eq_zero_iff {den : Nat} (positive : 0 < den) (num : Nat)
    (quantum : Int) :
    divRound (scaleBinary num den (-quantum)).1 (scaleBinary num den (-quantum)).2 = 0 ↔
      (num / den : ℚ) ≤ 2 ^ (quantum - 1) := by
  have unit := scaleBinary_pos positive num (-quantum)
  have ratio := scaleBinary_ratio num den (-quantum)
  have half : (2 : ℚ) ^ (quantum - 1) = 1 / 2 * 2 ^ quantum := by
    rw [zpow_sub_one₀ two_ne_zero]
    ring
  rw [divRound_eq_zero_iff unit, half, ← div_le_iff₀ (by positivity),
    div_eq_mul_inv _ (2 ^ quantum),
    ← zpow_neg, ← ratio, div_le_div_iff₀ (by exact_mod_cast unit) (by decide), one_mul, mul_comm]
  exact_mod_cast Iff.rfl

/-! ## The size of a fraction -/

/-- A fraction is at least the power of two below it. -/
theorem two_zpow_floorLog2_le {num den : Nat} (numerator : 0 < num) (denominator : 0 < den) :
    (2 : ℚ) ^ floorLog2 num den ≤ num / den := by
  unfold floorLog2
  generalize level : ((num.log2 : Int) - den.log2) = guess
  have unit : (0 : ℚ) < (scaleBinary num den (-guess)).2 := by
    exact_mod_cast scaleBinary_pos denominator num (-guess)
  have ratio := scaleBinary_ratio num den (-guess)
  simp only
  split
  · rename_i reached
    have atLeast : (1 : ℚ) ≤ num / den * 2 ^ (-guess) := by
      rw [← ratio, one_le_div unit]
      exact_mod_cast reached
    rwa [zpow_neg, ← div_eq_mul_inv, one_le_div (by positivity)] at atLeast
  · have above : (2 : ℚ) ^ (num.log2 : Int) ≤ num := by
      rw [zpow_natCast]
      exact_mod_cast Nat.log2_self_le (Nat.ne_of_gt numerator)
    have below : (den : ℚ) ≤ 2 ^ ((den.log2 : Int) + 1) := by
      rw [← Nat.cast_succ, zpow_natCast]
      exact_mod_cast Nat.le_of_lt Nat.lt_log2_self
    have split : guess - 1 = (num.log2 : Int) - ((den.log2 : Int) + 1) := by omega
    rw [split, zpow_sub₀ two_ne_zero]
    exact div_le_div₀ (by positivity) above (by exact_mod_cast denominator) below

/-! ## Rounding a fraction -/

/-- The quantum that a fraction is rounded to. -/
def Format.quantumOf (f : Format) (num den : Nat) : Int :=
  max (floorLog2 num den + 1 - f.precision) f.minQuantum

/-- Half a quantum is too little for a fraction only if the quantum is the least one, since a larger
one leaves the leading bit in place. -/
theorem le_half_quantumOf_iff {f : Format} (precise : 0 < f.precision) {num den : Nat}
    (numerator : 0 < num) (denominator : 0 < den) :
    (num / den : ℚ) ≤ 2 ^ (f.quantumOf num den - 1) ↔ (num / den : ℚ) ≤ 2 ^ (f.minQuantum - 1) := by
  constructor
  · intro small
    have low : floorLog2 num den ≤ f.quantumOf num den - 1 :=
      (zpow_le_zpow_iff_right₀ one_lt_two).mp
        ((two_zpow_floorLog2_le numerator denominator).trans small)
    have least : f.quantumOf num den = f.minQuantum := by
      unfold Format.quantumOf at low ⊢
      omega
    rwa [least] at small
  · intro small
    refine small.trans (zpow_le_zpow_right₀ one_le_two ?_)
    unfold Format.quantumOf
    omega

namespace Binary

variable {f : Format}

/-- The significand of what a fraction rounds to is zero just if its rounded multiple of the quantum
is; a carry into the next power of two is none. -/
theorem ofFraction_eq (negative : Bool) {num : Nat} (some : num ≠ 0) (den : Nat) :
    ∃ significand exponent,
      (significand = 0 ↔ divRound (scaleBinary num den (-f.quantumOf num den)).1
        (scaleBinary num den (-f.quantumOf num den)).2 = 0) ∧
      (ofFraction negative num den : Binary f) =
        if significand = 0 then zero negative
        else if f.maxQuantum < exponent then .infinite negative
        else .finite negative significand exponent := by
  rw [ofFraction, if_neg some, Format.quantumOf]
  generalize max (floorLog2 num den + 1 - f.precision) f.minQuantum = quantum
  simp only
  generalize
    divRound (scaleBinary num den (-quantum)).1 (scaleBinary num den (-quantum)).2 = rounded
  by_cases carried : rounded = Nat.pow 2 f.precision
  · refine ⟨Nat.pow 2 (f.precision - 1), quantum + 1, ?_, by rw [if_pos carried]⟩
    rw [carried]
    exact iff_of_false (Nat.ne_of_gt (Nat.pow_pos (by decide)))
      (Nat.ne_of_gt (Nat.pow_pos (by decide)))
  · exact ⟨rounded, quantum, Iff.rfl, by rw [if_neg carried]⟩

/-- What a fraction rounds to: zero, infinity, or something between them; always with its own sign.
-/
theorem ofFraction_cases (negative : Bool) (num den : Nat) :
    (ofFraction negative num den : Binary f) = zero negative ∨
      (ofFraction negative num den : Binary f) = .infinite negative ∨
      ∃ significand exponent, significand ≠ 0 ∧
        (ofFraction negative num den : Binary f) = .finite negative significand exponent := by
  by_cases nothing : num = 0
  · rw [ofFraction, if_pos nothing]
    exact .inl rfl
  · obtain ⟨significand, exponent, -, same⟩ := ofFraction_eq (f := f) negative nothing den
    rw [same]
    split
    · exact .inl rfl
    · rename_i some
      split
      · exact .inr (.inl rfl)
      · exact .inr (.inr ⟨significand, exponent, some, rfl⟩)

/-- **A fraction rounds to zero exactly if it is at most half of the least quantum.** -/
theorem isZero_ofFraction_iff (precise : 0 < f.precision) (negative : Bool) (num : Nat) {den : Nat}
    (positive : 0 < den) :
    (ofFraction negative num den : Binary f).isZero = true ↔
      (num / den : ℚ) ≤ 2 ^ (f.minQuantum - 1) := by
  by_cases nothing : num = 0
  · have least : (0 : ℚ) ≤ 2 ^ (f.minQuantum - 1) := by positivity
    simp [ofFraction, zero, isZero, nothing, least]
  · obtain ⟨significand, exponent, vanishes, same⟩ := ofFraction_eq (f := f) negative nothing den
    rw [← le_half_quantumOf_iff precise (Nat.pos_of_ne_zero nothing) positive,
      ← divRound_scaleBinary_eq_zero_iff positive, ← vanishes, same]
    by_cases gone : significand = 0
    · simp [gone, zero, isZero]
    · rw [if_neg gone]
      split <;> simp [isZero, gone]

/-! ## Products -/

/-- The fraction of a datum is its exact value. -/
theorem magnitude_ratio (significand : Nat) (exponent : Int) :
    ((magnitude significand exponent).1 : ℚ) / (magnitude significand exponent).2 =
      significand * 2 ^ exponent := by
  rw [magnitude, scaleBinary_ratio, Nat.cast_one, div_one]

/-- **A product rounds to zero exactly if the exact product is at most half of the least quantum.**
-/
theorem isZero_mul_iff (precise : 0 < f.precision) {x y : Binary f} (left : x.isFinite = true)
    (right : y.isFinite = true) :
    (x.mul y).isZero = true ↔ x.size * y.size ≤ 2 ^ (f.minQuantum - 1) := by
  match x, y, left, right with
  | .finite s m d, .finite t n e, _, _ =>
      have exact : (m * 2 ^ d * (n * 2 ^ e) : ℚ) = (m * n : Nat) * 2 ^ (d + e) := by
        rw [zpow_add₀ two_ne_zero, Nat.cast_mul]
        ring
      rw [mul, size, size, exact, ← magnitude_ratio]
      exact isZero_ofFraction_iff precise _ _ (scaleBinary_pos Nat.one_pos _ _)

end Binary

end QueryRewriting.Decimal
