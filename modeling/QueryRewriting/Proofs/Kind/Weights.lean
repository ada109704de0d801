import QueryRewriting.Kind.Clauses
import QueryRewriting.Proofs.Decimal.Rounding

/-! # The weights of added boosts

A boost is accepted with a finite weight greater than zero, and a request scales it by a finite
factor greater than zero. The product of the two is held at the largest weight, so it is finite; but
it has no bound from below, and it is a weight only if it is not rounded to zero. -/

namespace QueryRewriting.Kind

open Decimal

/-! ## Accepted weights and factors -/

/-- A legal weight is finite, greater than zero and written without a sign. -/
theorem isBoostWeight_iff {weight : Single} :
    isBoostWeight weight = true ↔
      ∃ significand exponent, significand ≠ 0 ∧ weight = .finite false significand exponent := by
  cases weight with
  | finite negative significand exponent =>
      cases negative <;> simp [isBoostWeight, Binary.isFinite, Binary.isPositive]
  | _ => simp [isBoostWeight, Binary.isFinite]

/-- A weight that a boost may have is finite. -/
theorem isFinite_of_isBoostWeight {weight : Single} (legal : isBoostWeight weight = true) :
    weight.isFinite = true :=
  (Bool.and_eq_true_iff.mp legal).1

/-- The weights of an accepted configuration are legal. -/
theorem isBoostWeight_of_ofConfig {config : Json.Fields} {settings : ClausesSettings}
    (accepted : ClausesSettings.ofConfig config = .ok settings) :
    ∀ boost ∈ settings.boosts, isBoostWeight boost.weight = true := by
  unfold ClausesSettings.ofConfig at accepted
  split at accepted
  · cases accepted
  · rename_i written _
    by_cases clean : written.problems.isEmpty = true
    · rw [if_pos clean] at accepted
      cases accepted
      intro boost member
      obtain ⟨position, there⟩ := List.mem_iff_getElem?.mp member
      simp only [ClausesSettings.problems, List.isEmpty_iff, List.append_eq_nil_iff,
        List.flatMap_eq_nil_iff] at clean
      have none := clean.1.2 (boost, position) (List.mk_mem_zipIdx_iff_getElem?.mpr there)
      by_contra illegal
      simp [TermBoost.problems, illegal] at none
    · rw [if_neg clean] at accepted
      cases accepted

/-- Whatever a request gives as factor, weights are scaled by a legal one. -/
theorem isBoostWeight_weightFactor (param : Option Single) :
    isBoostWeight (weightFactor param) = true := by
  unfold weightFactor
  split
  · rename_i factor
    by_cases legal : isBoostWeight factor = true
    · rw [if_pos legal]
      exact legal
    · rw [if_neg legal]
      decide
  · decide

/-! ## Scaled weights -/

/-- A weight that is scaled is held at the largest one, and is legal unless the product is rounded
to zero. -/
theorem scaleWeight_cases {weight factor : Single} (legal : isBoostWeight weight = true)
    (scales : isBoostWeight factor = true) :
    (weight.mul factor).isZero = true ∧ scaleWeight weight factor = Binary.zero false ∨
      (weight.mul factor).isZero = false ∧ isBoostWeight (scaleWeight weight factor) = true := by
  obtain ⟨m, d, -, rfl⟩ := isBoostWeight_iff.mp legal
  obtain ⟨n, e, -, rfl⟩ := isBoostWeight_iff.mp scales
  have product : (Binary.finite false m d : Single).mul (.finite false n e) =
      Binary.ofFraction false (Binary.magnitude (m * n) (d + e)).1
        (Binary.magnitude (m * n) (d + e)).2 := rfl
  rw [scaleWeight, product]
  rcases Binary.ofFraction_cases (f := .single) false (Binary.magnitude (m * n) (d + e)).1
    (Binary.magnitude (m * n) (d + e)).2 with zero | infinite | ⟨significand, exponent, some, same⟩
  · rw [zero]
    exact .inl ⟨rfl, rfl⟩
  -- Only the upper end is held: an infinite product becomes the largest single.
  · rw [infinite]
    exact .inr ⟨rfl, by decide⟩
  · rw [same]
    refine .inr ⟨beq_eq_false_iff_ne.mpr some, ?_⟩
    simp only [Binary.atMost]
    split
    · decide
    · exact isBoostWeight_iff.mpr ⟨significand, exponent, some, rfl⟩

/-- A boost as it is configured, and the factor that a request scales it by. -/
structure ScaledBoost where
  origin : TermBoost
  factor : Single

namespace ScaledBoost

/-- The boost as it is added to a query. -/
def boost (scaled : ScaledBoost) : Boost := scaled.origin.boost scaled.factor

/-- The exact product of weight and factor is at most half of the least single greater than zero. -/
def Fades (scaled : ScaledBoost) : Prop :=
  scaled.origin.weight.size * scaled.factor.size ≤ 2 ^ (-150 : ℤ)

/-- A boost whose weight and whose factor were both accepted. -/
structure Legal (scaled : ScaledBoost) : Prop where
  weight : isBoostWeight scaled.origin.weight = true
  factor : isBoostWeight scaled.factor = true

variable {scaled : ScaledBoost}

/-- The product of a weight and a factor is zero exactly if the weight fades. -/
theorem Legal.isZero_iff (legal : scaled.Legal) :
    (scaled.origin.weight.mul scaled.factor).isZero = true ↔ scaled.Fades :=
  Binary.isZero_mul_iff (by decide) (isFinite_of_isBoostWeight legal.weight)
    (isFinite_of_isBoostWeight legal.factor)

/-- A weight that fades is scaled to zero. -/
theorem Legal.weight_of_fades (legal : scaled.Legal) (fades : scaled.Fades) :
    scaled.boost.weight = Binary.zero false := by
  have zero := legal.isZero_iff.mpr fades
  rcases scaleWeight_cases legal.weight legal.factor with ⟨_, gone⟩ | ⟨some, _⟩
  · exact gone
  · rw [zero] at some
    cases some

/-- **A scaled weight is legal unless it fades.** -/
theorem Legal.isBoostWeight_iff (legal : scaled.Legal) :
    isBoostWeight scaled.boost.weight = true ↔ ¬ scaled.Fades := by
  rw [← legal.isZero_iff]
  rcases scaleWeight_cases legal.weight legal.factor with ⟨zero, gone⟩ | ⟨some, weighs⟩
  · have illegal : isBoostWeight scaled.boost.weight = false := by
      rw [boost, TermBoost.boost, gone]
      rfl
    rw [zero, illegal]
    decide
  · rw [some]
    exact iff_of_true weighs (by decide)

/-- A scaled weight is finite. -/
theorem Legal.isFinite_weight (legal : scaled.Legal) : scaled.boost.weight.isFinite = true := by
  by_cases fades : scaled.Fades
  · rw [legal.weight_of_fades fades]
    rfl
  · exact isFinite_of_isBoostWeight (legal.isBoostWeight_iff.mpr fades)

end ScaledBoost

end QueryRewriting.Kind
