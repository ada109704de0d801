import QueryRewriting.Proofs.Threshold.Grammar

/-! # Resolution is exact

How many clauses a threshold requires is defined over all integers, and is then never fewer than
none nor more than there are. The number that is worked out in words of 64 bits, whose products stop
at the ends of their range, is the same one: where a product is cut off the result lies beyond the
clauses anyway. No other step leaves the range. -/

namespace QueryRewriting

/-! ## Values over all integers -/

/-- The number of clauses that a requirement asks for. -/
def Requirement.value (count : Int) : Requirement → Int
  | .count n => if 0 ≤ n.toInt then n.toInt else count + n.toInt
  | .percent p =>
    if 0 ≤ p.toInt then (count * p.toInt).tdiv 100 else count + (count * p.toInt).tdiv 100

/-- The last condition whose bound is exceeded. -/
def inForce? (count : Int) (conditions : List Condition) : Option Condition :=
  conditions.reverse.find? fun condition => condition.bound.toNat < count

/-- The number of clauses that a threshold asks for: of a chain, the last condition in force counts,
and without one all clauses are asked for. -/
def ThresholdRule.value (count : Int) : ThresholdRule → Int
  | .simple requirement => requirement.value count
  | .chain conditions =>
    match inForce? count conditions with
    | some condition => condition.requirement.value count
    | none => count

/-! ## Words

Of the operations on words only a sum can overflow: products stop at the ends of the range, and the
quotient by a hundred lies within it. -/

/-- The sum of two words, unless it is none. -/
def addWords? (a b : Int64) : Option Int64 :=
  let sum := a.toInt + b.toInt
  if -9223372036854775808 ≤ sum ∧ sum < 9223372036854775808 then some (Int64.ofInt sum) else none

/-- The product of two words, or the end of the range that it lies beyond. -/
def mulWords (a b : Int64) : Int64 := Int64.ofInt (saturate64 (a.toInt * b.toInt))

/-- What a requirement comes to: a negative one lowers the number of clauses. There is no result if
the sum overflows. -/
def settleWord? (count part : Int64) (negative : Bool) : Option Int64 := do
  let result ← if negative then addWords? count part else some part
  return if result < 0 then 0 else result

/-- The number of clauses required, in words of 64 bits, if no step overflows. -/
def Requirement.resolveWord? (count : Int64) : Requirement → Option Int64
  | .count n => settleWord? count n (n < 0)
  | .percent p => settleWord? count (mulWords count p / 100) (p < 0)

/-- The requirement of the last condition in force, in words of 64 bits. -/
def resolveChainWord? (count current : Int64) : List Condition → Option Int64
  | [] => some current
  | condition :: rest =>
    if count ≤ Int64.ofInt condition.bound.toNat then some current
    else do
      let next ← condition.requirement.resolveWord? count
      resolveChainWord? count next rest

/-- The number of clauses required by a rule, in words of 64 bits. -/
def ThresholdRule.resolveWord? (count : Int64) : ThresholdRule → Option Int64
  | .simple requirement => requirement.resolveWord? count
  | .chain conditions => resolveChainWord? count count conditions

/-- A word cut to between zero and a count. -/
def clampWord (count word : Int64) : Int64 :=
  if word < 0 then 0 else if count < word then count else word

/-- A word in half as many bits, or the most that these hold. -/
def halveWord (word : Int64) : UInt32 :=
  if word.toInt ≤ 4294967295 then UInt32.ofNat word.toInt.toNat else 4294967295

/-- A threshold resolved in words; there is no result if a sum overflows. -/
def Threshold.resolveWord? (threshold : Threshold) (optionalClauses : Nat) : Option UInt32 := do
  let count := Int64.ofInt (saturate64 optionalClauses)
  let resolved ← threshold.rule.resolveWord? count
  return halveWord (clampWord count resolved)

variable {requirement : Requirement} {conditions : List Condition} {rule : ThresholdRule}
  {threshold : Threshold} {count current : Int}

/-! ## No step leaves the range -/

/-- The nearest word to an integer stands for the nearest integer of 64 bits. -/
theorem toInt_ofInt_saturate64 (n : Int) : (Int64.ofInt (saturate64 n)).toInt = saturate64 n := by
  unfold saturate64
  exact Int64.toInt_ofInt_of_le (by omega) (by omega)

/-- The nearest integer of 64 bits is one of 64 bits. -/
theorem saturate64_mem (n : Int) :
    -9223372036854775808 ≤ saturate64 n ∧ saturate64 n < 9223372036854775808 := by
  unfold saturate64
  omega

/-- Cutting toward zero is rounding down on either side of zero. -/
theorem tdiv_hundred (m : Int) : m.tdiv 100 = if 0 ≤ m then m / 100 else -(-m / 100) := by
  split
  · rename_i nonneg
    exact Int.tdiv_eq_ediv_of_nonneg nonneg
  · rename_i neg
    rw [← Int.tdiv_eq_ediv_of_nonneg (by omega), Int.neg_tdiv, Int.neg_neg]

/-- A product that is cut to 64 bits, by a hundred. -/
theorem toInt_mulWords_div (a b : Int64) :
    (mulWords a b / 100).toInt = (saturate64 (a.toInt * b.toInt)).tdiv 100 := by
  have range := saturate64_mem (a.toInt * b.toInt)
  have cut := tdiv_hundred (saturate64 (a.toInt * b.toInt))
  have hundred : (100 : Int64).toInt = 100 := by decide
  rw [Int64.toInt_div, mulWords, toInt_ofInt_saturate64, hundred]
  refine Int.bmod_eq_of_le ?_ ?_ <;> split at cut <;> omega

/-- A sum within 64 bits does not overflow. -/
theorem addWords?_eq_some {a b : Int64} (range : -9223372036854775808 ≤ a.toInt + b.toInt)
    (above : a.toInt + b.toInt < 9223372036854775808) :
    ∃ sum, addWords? a b = some sum ∧ sum.toInt = a.toInt + b.toInt :=
  ⟨_, if_pos ⟨range, above⟩, Int64.toInt_ofInt_of_le range above⟩

/-- What is required of a count does not overflow. -/
theorem settleWord?_eq_some {count : Int64} (nonneg : 0 ≤ count.toInt) (part : Int64)
    (negative : Bool) (signed : negative = true → part.toInt ≤ 0) :
    ∃ word, settleWord? count part negative = some word ∧
      word.toInt = max (if negative then count.toInt + part.toInt else part.toInt) 0 := by
  have floor (result : Int64) : (if result < 0 then (0 : Int64) else result).toInt =
      max result.toInt 0 := by
    have sign : result < 0 ↔ result.toInt < 0 := Int64.lt_iff_toInt_lt
    split
    · rename_i below
      have := sign.mp below
      rw [Int64.toInt_zero]
      omega
    · rename_i above
      have := mt sign.mpr above
      omega
  cases negative with
  | false => exact ⟨_, rfl, floor part⟩
  | true =>
      have below := count.toInt_lt
      have above := part.le_toInt
      have negative := signed rfl
      obtain ⟨sum, adds, same⟩ := addWords?_eq_some (a := count) (b := part) (by omega) (by omega)
      refine ⟨_, by rw [settleWord?, if_pos rfl, adds]; rfl, ?_⟩
      rw [floor, same, if_pos rfl]

/-- **No requirement overflows.** Only what is negative is added to the number of clauses, which is
not. -/
theorem Requirement.resolveWord?_eq_some {count : Int64} (nonneg : 0 ≤ count.toInt)
    (requirement : Requirement) :
    ∃ word, requirement.resolveWord? count = some word ∧
      word.toInt = requirement.resolve count.toInt := by
  cases requirement with
  | count n =>
      have sign : n < 0 ↔ n.toInt < 0 := Int64.lt_iff_toInt_lt
      obtain ⟨word, settles, same⟩ := settleWord?_eq_some nonneg n (n < 0)
        (by simpa [sign] using Int.le_of_lt)
      exact ⟨word, settles, by simpa [Requirement.resolve] using same⟩
  | percent p =>
      have sign : p < 0 ↔ p.toInt < 0 := Int64.lt_iff_toInt_lt
      have lowers : p < 0 → (mulWords count p / 100).toInt ≤ 0 := by
        intro negative
        have product := Int.mul_nonpos_of_nonneg_of_nonpos nonneg (Int.le_of_lt (sign.mp negative))
        have cut := tdiv_hundred (saturate64 (count.toInt * p.toInt))
        rw [toInt_mulWords_div]
        unfold saturate64 at cut ⊢
        split at cut <;> omega
      obtain ⟨word, settles, same⟩ := settleWord?_eq_some nonneg
        (mulWords count p / 100) (p < 0) (by simpa using lowers)
      rw [toInt_mulWords_div] at same
      exact ⟨word, settles, by simpa [Requirement.resolve] using same⟩

/-- A bound of 32 bits is a word. -/
theorem toInt_ofInt_bound (bound : UInt32) : (Int64.ofInt bound.toNat).toInt = bound.toNat := by
  have := bound.toNat_lt
  exact Int64.toInt_ofInt_of_le (by omega) (by omega)

/-- No step along a chain overflows. -/
theorem resolveChainWord?_eq_some {count : Int64} (nonneg : 0 ≤ count.toInt) (current : Int64)
    (conditions : List Condition) :
    ∃ word, resolveChainWord? count current conditions = some word ∧
      word.toInt = resolveChain count.toInt current.toInt conditions := by
  induction conditions generalizing current with
  | nil => exact ⟨current, rfl, rfl⟩
  | cons condition rest ih =>
      have within : count ≤ Int64.ofInt condition.bound.toNat ↔
          count.toInt ≤ condition.bound.toNat := by
        rw [Int64.le_iff_toInt_le, toInt_ofInt_bound]
      rw [resolveChainWord?, resolveChain]
      by_cases reached : count ≤ Int64.ofInt condition.bound.toNat
      · rw [if_pos reached, if_pos (within.mp reached)]
        exact ⟨current, rfl, rfl⟩
      · rw [if_neg reached, if_neg (mt within.mpr reached)]
        obtain ⟨next, resolves, same⟩ := condition.requirement.resolveWord?_eq_some nonneg
        obtain ⟨word, chain, value⟩ := ih next
        exact ⟨word, by rw [resolves]; exact chain, by rw [value, same]⟩

/-- No step of a rule overflows. -/
theorem ThresholdRule.resolveWord?_eq_some {count : Int64} (nonneg : 0 ≤ count.toInt)
    (rule : ThresholdRule) :
    ∃ word, rule.resolveWord? count = some word ∧ word.toInt = rule.resolve count.toInt := by
  cases rule with
  | simple requirement => exact requirement.resolveWord?_eq_some nonneg
  | chain conditions => exact resolveChainWord?_eq_some nonneg count conditions

/-- A word is cut to size as an integer is. -/
theorem toInt_clampWord {count : Int64} (nonneg : 0 ≤ count.toInt) (word : Int64) :
    (clampWord count word).toInt = max 0 (min word.toInt count.toInt) := by
  have sign : word < 0 ↔ word.toInt < 0 := Int64.lt_iff_toInt_lt
  have order : count < word ↔ count.toInt < word.toInt := Int64.lt_iff_toInt_lt
  unfold clampWord
  simp only [sign, order]
  split
  · rw [Int64.toInt_zero]
    omega
  · split <;> omega

/-- A word is cut to 32 bits as an integer is. -/
theorem halveWord_eq {word : Int64} (nonneg : 0 ≤ word.toInt) :
    halveWord word = UInt32.ofNat (min word.toInt.toNat 4294967295) := by
  unfold halveWord
  split
  · rw [Nat.min_eq_left (by omega)]
  · rw [Nat.min_eq_right (by omega)]
    rfl

/-- **No threshold overflows**, and in words it resolves to just the same number of clauses. -/
theorem Threshold.resolveWord?_eq (threshold : Threshold) (optionalClauses : Nat) :
    threshold.resolveWord? optionalClauses = some (threshold.resolve optionalClauses) := by
  have count := toInt_ofInt_saturate64 optionalClauses
  have nonneg : 0 ≤ saturate64 optionalClauses := by
    unfold saturate64
    omega
  obtain ⟨word, resolves, same⟩ := threshold.rule.resolveWord?_eq_some (count.symm ▸ nonneg)
  have clamped := toInt_clampWord (count.symm ▸ nonneg) word
  rw [Threshold.resolveWord?, resolves, Threshold.resolve]
  refine congrArg some ((halveWord_eq (by omega)).trans ?_)
  rw [clamped, same, count]

/-! ## Cut products -/

/-- **Cut products do not show.** Where a product leaves the range of the words, what it asks for is
either none of the clauses or all of them. -/
theorem Requirement.clamp_resolve (nonneg : 0 ≤ count) (small : count ≤ 92233720368547758)
    (requirement : Requirement) :
    max 0 (min (requirement.resolve count) count) =
      max 0 (min (requirement.value count) count) := by
  cases requirement with
  | count n =>
      have sign : n < 0 ↔ n.toInt < 0 := Int64.lt_iff_toInt_lt
      unfold Requirement.resolve Requirement.value
      simp only [sign]
      split <;> split <;> omega
  | percent p =>
      have sign : p < 0 ↔ p.toInt < 0 := Int64.lt_iff_toInt_lt
      have rises : 0 ≤ p.toInt → 0 ≤ count * p.toInt := Int.mul_nonneg nonneg
      have falls : p.toInt < 0 → count * p.toInt ≤ 0 := fun negative =>
        Int.mul_nonpos_of_nonneg_of_nonpos nonneg (Int.le_of_lt negative)
      have whole := tdiv_hundred (count * p.toInt)
      have cut := tdiv_hundred (saturate64 (count * p.toInt))
      unfold Requirement.resolve Requirement.value
      simp only [sign]
      unfold saturate64 at cut ⊢
      generalize count * p.toInt = product at *
      split at cut <;> split at whole <;> split <;> split <;> omega

/-! ## Conditions in force -/

/-- Of two conditions in force the later one counts. -/
theorem inForce?_cons (condition : Condition) (rest : List Condition) :
    inForce? count (condition :: rest) = (inForce? count rest).or
      (if condition.bound.toNat < count then some condition else none) := by
  unfold inForce?
  rw [List.reverse_cons, List.find?_append, List.find?_singleton]
  simp

/-- With increasing bounds, stopping at the first bound that is not exceeded finds the last one that
is. -/
theorem resolveChain_eq (increasing : conditions.Pairwise (·.bound < ·.bound)) :
    resolveChain count current conditions =
      match inForce? count conditions with
      | some condition => condition.requirement.resolve count
      | none => current := by
  induction conditions generalizing current with
  | nil => rfl
  | cons condition rest ih =>
      obtain ⟨above, increasing⟩ := List.pairwise_cons.mp increasing
      rw [resolveChain, inForce?_cons]
      split
      · rename_i within
        have none : inForce? count rest = none := by
          refine List.find?_eq_none.mpr fun later member => ?_
          have later := UInt32.lt_iff_toNat_lt.mp (above later (List.mem_reverse.mp member))
          simp only [decide_eq_true_eq]
          omega
        rw [none, if_neg (by omega)]
        rfl
      · rename_i beyond
        rw [ih increasing, if_pos (by omega)]
        cases inForce? count rest <;> rfl

/-- What a rule requires, cut to size, is its value cut to size. -/
theorem ThresholdRule.clamp_resolve {cs : List Char} (nonneg : 0 ≤ count)
    (small : count ≤ 92233720368547758) (writes : rule.WrittenAs cs) :
    max 0 (min (rule.resolve count) count) = max 0 (min (rule.value count) count) := by
  cases writes with
  | simple _ => exact Requirement.clamp_resolve nonneg small _
  | @chain conditions _ _ increasing =>
      rw [ThresholdRule.resolve, ThresholdRule.value, resolveChain_eq increasing]
      cases inForce? count conditions with
      | none => rfl
      | some condition => exact condition.requirement.clamp_resolve nonneg small

/-- **Resolution is exact.** Up to the most clauses whose percentages fit into a word, the number of
required clauses is the number that the threshold asks for, but for what lies outside the clauses
there are or the range of the result. Working in words gives it without an overflow. -/
theorem thresholds_resolve_exactly {text : String} {threshold : Threshold}
    (read : Threshold.read text = .ok threshold) {count : Nat}
    (small : count ≤ 92233720368547758) :
    ((threshold.resolve count).toNat : Int) =
        min (max 0 (min (threshold.rule.value count) count)) 4294967295 ∧
      threshold.resolveWord? count = some (threshold.resolve count) := by
  refine ⟨?_, threshold.resolveWord?_eq count⟩
  obtain ⟨_, writes⟩ := Threshold.read_eq_ok_iff.mp read
  have fits : saturate64 count = count := by
    unfold saturate64
    omega
  rw [← ThresholdRule.clamp_resolve (Int.natCast_nonneg count) (by omega) writes]
  simp only [Threshold.resolve, fits]
  rw [UInt32.toNat_ofNat_of_lt' (Nat.lt_of_le_of_lt (Nat.min_le_right _ _) (by decide))]
  omega

/-! ### A percentage past the range of the words -/

/-- A chain whose last condition asks for the least percentage there is. -/
def steepChain : String := "2<75% 9<-9223372036854775808%"

/-- Up to nine clauses three quarters are asked for. Past them the product is cut off, and none of
the clauses is required, as fewer than none are asked for. -/
theorem steepChain_resolves :
    ∃ threshold, Threshold.read steepChain = .ok threshold ∧
      threshold.resolve 7 = 5 ∧ threshold.resolveWord? 7 = some 5 ∧
      threshold.rule.value 1000 = -92233720368547757080 ∧
      threshold.resolve 1000 = 0 ∧ threshold.resolveWord? 1000 = some 0 := by
  have read : (Threshold.read steepChain).toOption =
      some ⟨steepChain, .chain [⟨2, .percent 75⟩, ⟨9, .percent (-9223372036854775808)⟩]⟩ := by
    decide +kernel
  cases found : Threshold.read steepChain with
  | error e =>
      rw [found] at read
      cases read
  | ok threshold =>
      rw [found] at read
      cases read
      obtain ⟨seven, sevenWord⟩ := thresholds_resolve_exactly found
        (show 7 ≤ 92233720368547758 by decide)
      obtain ⟨thousand, thousandWord⟩ := thresholds_resolve_exactly found
        (show 1000 ≤ 92233720368547758 by decide)
      have few : Threshold.resolve ⟨steepChain, .chain [⟨2, .percent 75⟩,
          ⟨9, .percent (-9223372036854775808)⟩]⟩ 7 = 5 := by
        refine UInt32.toNat_inj.mp (Int.ofNat.inj (seven.trans ?_))
        decide
      have many : Threshold.resolve ⟨steepChain, .chain [⟨2, .percent 75⟩,
          ⟨9, .percent (-9223372036854775808)⟩]⟩ 1000 = 0 := by
        refine UInt32.toNat_inj.mp (Int.ofNat.inj (thousand.trans ?_))
        decide
      exact ⟨_, rfl, few, few ▸ sevenWord, by decide, many, many ▸ thousandWord⟩

end QueryRewriting
