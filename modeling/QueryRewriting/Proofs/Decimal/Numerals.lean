import Mathlib.Algebra.Group.Nat.Defs
import Mathlib.Data.List.Induction
import QueryRewriting.Decimal.Whole

/-! # Numerals

What texts write a whole number: decimal digits, with a sign in front or not. The readers of whole
numbers accept a text exactly if it writes a number within their range, and then read that number.
-/

namespace QueryRewriting.Decimal

/-- The value of a decimal digit. -/
def digitValue (c : Char) : Nat := c.toNat - '0'.toNat

/-- Decimal digits write a natural number. -/
inductive Numeral : List Char → Nat → Prop where
  | digit {c} (isDigit : c.isDigit = true) : Numeral [c] (digitValue c)
  | next {cs n c} (numeral : Numeral cs n) (isDigit : c.isDigit = true) :
      Numeral (cs ++ [c]) (10 * n + digitValue c)

/-- A natural number that is written with a plus sign or without one. -/
inductive Unsigned : List Char → Nat → Prop where
  | bare {cs n} (numeral : Numeral cs n) : Unsigned cs n
  | plus {cs n} (numeral : Numeral cs n) : Unsigned ('+' :: cs) n

/-- An integer that is written with a sign or without one. -/
inductive Signed : List Char → Int → Prop where
  | unsigned {cs n} (unsigned : Unsigned cs n) : Signed cs n
  | minus {cs} {n : Nat} (numeral : Numeral cs n) : Signed ('-' :: cs) (-n)

variable {cs : List Char} {c : Char} {n bits : Nat} {z : Int}

/-! ## Characters -/

/-- A numeral has digits only. -/
theorem Numeral.isDigit (numeral : Numeral cs n) : ∀ c ∈ cs, c.isDigit = true := by
  induction numeral with
  | digit isDigit => exact List.forall_mem_singleton.mpr isDigit
  | next _ isDigit ih =>
      intro c member
      rcases List.mem_append.mp member with before | last
      · exact ih c before
      · exact List.mem_singleton.mp last ▸ isDigit

theorem Numeral.ne_nil (numeral : Numeral cs n) : cs ≠ [] := by
  cases numeral <;> simp

theorem Unsigned.ne_nil (unsigned : Unsigned cs n) : cs ≠ [] := by
  cases unsigned with
  | bare numeral => exact numeral.ne_nil
  | plus _ => exact List.cons_ne_nil _ _

theorem Signed.ne_nil (signed : Signed cs z) : cs ≠ [] := by
  cases signed with
  | unsigned unsigned => exact unsigned.ne_nil
  | minus _ => exact List.cons_ne_nil _ _

/-- A number without a minus sign has digits, and perhaps a plus sign. -/
theorem Unsigned.mem (unsigned : Unsigned cs n) : ∀ c ∈ cs, c.isDigit = true ∨ c = '+' := by
  cases unsigned with
  | bare numeral => exact fun c member => .inl (numeral.isDigit c member)
  | plus numeral =>
      refine List.forall_mem_cons.mpr ⟨.inr rfl, fun c member => .inl (numeral.isDigit c member)⟩

/-- A written integer is made of digits and signs. -/
theorem Signed.mem (signed : Signed cs z) : ∀ c ∈ cs, c.isDigit = true ∨ c = '+' ∨ c = '-' := by
  cases signed with
  | unsigned unsigned => exact fun c member => (unsigned.mem c member).imp id .inl
  | minus numeral =>
      refine List.forall_mem_cons.mpr ⟨.inr (.inr rfl), fun c member => ?_⟩
      exact .inl (numeral.isDigit c member)

/-! ## Reading -/

/-- Digits are read by the last one. -/
theorem readDigits?_concat (cs : List Char) (c : Char) :
    readDigits? (cs ++ [c]) =
      if c.isDigit then
        if cs = [] then some (digitValue c)
        else (readDigits? cs).map fun n => 10 * n + digitValue c
      else none := by
  cases digit : c.isDigit with
  | false => simp [readDigits?, digit]
  | true =>
      cases cs with
      | nil => simp [readDigits?, digit, digitValue]
      | cons d cs =>
          have digits : (d :: cs ++ [c]).all Char.isDigit = (d :: cs).all Char.isDigit := by
            simp [List.all_append, digit]
          unfold readDigits?
          rw [digits, List.foldl_append]
          cases (d :: cs).all Char.isDigit with
          | false => rfl
          | true => simp [digitValue, Nat.mul_comm]

/-- Digits are read as the number that they write. -/
theorem readDigits?_eq_some_iff : readDigits? cs = some n ↔ Numeral cs n := by
  constructor
  · intro reads
    induction cs using List.reverseRecOn generalizing n with
    | nil => cases reads
    | append_singleton cs c ih =>
        rw [readDigits?_concat] at reads
        split at reads
        · rename_i isDigit
          split at reads
          · rename_i first
            subst first
            cases reads
            exact .digit isDigit
          · obtain ⟨m, before, rfl⟩ := Option.map_eq_some_iff.mp reads
            exact .next (ih before) isDigit
        · cases reads
  · intro numeral
    induction numeral with
    | digit isDigit => exact (readDigits?_concat [] _).trans (by rw [if_pos isDigit, if_pos rfl])
    | next numeral isDigit ih =>
        rw [readDigits?_concat, if_pos isDigit, if_neg numeral.ne_nil, ih]
        rfl

/-- A numeral does not begin with a sign. -/
theorem not_numeral_of_sign (sign : c.isDigit = false) : ¬ Numeral (c :: cs) n := by
  intro numeral
  have digit := numeral.isDigit c List.mem_cons_self
  rw [sign] at digit
  cases digit

/-- A number that was read is kept if it is within the bound. -/
theorem bounded_eq_some_iff {found : Option Nat} {bound : Nat} :
    (match found with
      | some m => if m < bound then some m else none
      | none => none) = some n ↔ found = some n ∧ n < bound := by
  cases found with
  | none => simp
  | some m =>
      by_cases small : m < bound
      · simp only [if_pos small, Option.some.injEq]
        exact ⟨fun same => ⟨same, same ▸ small⟩, And.left⟩
      · simp only [if_neg small, reduceCtorEq, Option.some.injEq, false_iff, not_and]
        exact fun same => same ▸ small

/-- A number without a minus sign is read if it fits. -/
theorem readUnsigned?_eq_some_iff :
    readUnsigned? bits cs = some n ↔ Unsigned cs n ∧ n < 2 ^ bits := by
  refine bounded_eq_some_iff.trans (and_congr_left fun _ => ?_)
  rw [readDigits?_eq_some_iff]
  split
  · refine ⟨.plus, fun unsigned => ?_⟩
    cases unsigned with
    | bare numeral => exact (not_numeral_of_sign (by decide) numeral).elim
    | plus numeral => exact numeral
  · rename_i other
    refine ⟨.bare, fun unsigned => ?_⟩
    cases unsigned with
    | bare numeral => exact numeral
    | plus _ => exact (other _ rfl).elim

/-- Behind a minus sign stand digits. -/
theorem signed_minus_iff : Signed ('-' :: cs) z ↔ ∃ n : Nat, Numeral cs n ∧ z = -n := by
  constructor
  · intro signed
    cases signed with
    | unsigned unsigned =>
        cases unsigned with
        | bare numeral => exact (not_numeral_of_sign (by decide) numeral).elim
    | minus numeral => exact ⟨_, numeral, rfl⟩
  · rintro ⟨n, numeral, rfl⟩
    exact .minus numeral

/-- Without a minus sign a number is not negative. -/
theorem signed_iff_of_ne (other : ∀ rest, cs ≠ '-' :: rest) :
    Signed cs z ↔ ∃ n : Nat, Unsigned cs n ∧ z = n := by
  constructor
  · intro signed
    cases signed with
    | unsigned unsigned => exact ⟨_, unsigned, rfl⟩
    | minus _ => exact (other _ rfl).elim
  · rintro ⟨n, unsigned, rfl⟩
    exact .unsigned unsigned

/-- An integer of 64 bits is read off exactly the texts that write it. -/
theorem readInt64?_eq_some_iff {n : Int64} : readInt64? cs = some n ↔ Signed cs n.toInt := by
  have least := n.le_toInt
  have greatest := n.toInt_lt
  -- The lowest number has one more to it than the highest, so the signs are read apart.
  unfold readInt64?
  split
  · rename_i rest
    rw [signed_minus_iff]
    constructor
    · intro reads
      split at reads
      · rename_i m found
        split at reads
        · cases reads
          refine ⟨m, readDigits?_eq_some_iff.mp found, ?_⟩
          exact Int64.toInt_ofInt_of_le (by omega) (by omega)
        · cases reads
      · cases reads
    · rintro ⟨m, numeral, same⟩
      rw [readDigits?_eq_some_iff.mpr numeral]
      simp only
      rw [if_pos (by omega), ← same, Int64.ofInt_toInt]
  · rename_i other
    rw [signed_iff_of_ne other]
    constructor
    · intro reads
      split at reads
      · rename_i m found
        cases reads
        obtain ⟨unsigned, small⟩ := readUnsigned?_eq_some_iff.mp found
        exact ⟨m, unsigned, Int64.toInt_ofInt_of_le (by omega) (by omega)⟩
      · cases reads
    · rintro ⟨m, unsigned, same⟩
      rw [readUnsigned?_eq_some_iff.mpr ⟨unsigned, by omega⟩]
      simp only
      rw [← same, Int64.ofInt_toInt]

end QueryRewriting.Decimal
