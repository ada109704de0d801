import Mathlib.Data.List.TakeWhile
import QueryRewriting.Json.Printer
import QueryRewriting.Json.Reader

/-! # Numbers in front of other text

The reader of a number stops at the first character that does not belong to it. So a number that is
read off the front of a text is read off the front of every longer one, as long as what follows does
not go on with a digit, a point or an exponent. Whole numbers of 64 bits always read back.
-/

namespace QueryRewriting.Json

namespace Reader

/-- A text that does not go on with a number in front of it. -/
def EndsNumber (rest : List Char) : Prop :=
  ∀ c ∈ rest.head?, c.isDigit = false ∧ c ≠ '.' ∧ c ≠ 'e' ∧ c ≠ 'E'

theorem endsNumber_nil : EndsNumber [] := by
  intro c member
  cases member

variable {negative : Bool} {cs tail rest : List Char}

/-! ## Digits -/

/-- Where a number ends there are no digits. -/
theorem digits_of_endsNumber (ends : EndsNumber rest) : digits rest = ([], rest) := by
  cases rest with
  | nil => rfl
  | cons c rest =>
      have other := (ends c rfl).1
      simp [digits, other]

/-- What follows the end of a number does not change its digits. -/
theorem digits_append (ends : EndsNumber rest) :
    digits (cs ++ rest) = ((digits cs).1, (digits cs).2 ++ rest) := by
  induction cs with
  | nil => exact digits_of_endsNumber ends
  | cons c cs ih =>
      by_cases digit : c.isDigit = true
      · simp only [digits, Prod.mk.injEq, List.cons_append, List.takeWhile_cons_of_pos digit,
          List.dropWhile_cons_of_pos digit, List.map_cons, List.cons.injEq, true_and] at ih ⊢
        exact ih
      · simp [digits, digit]

/-! ## Fractions and exponents -/

/-- Without a point there is no fraction. -/
theorem fraction?_of_ne {c : Char} (other : c ≠ '.') (cs : List Char) :
    fraction? (c :: cs) = some (none, c :: cs) := by
  unfold fraction?
  split
  · rename_i same
    cases same
    exact absurd rfl other
  · rfl

/-- What follows the end of a number does not change its fraction. -/
theorem fraction?_append {fraction : Option (List Nat)} (ends : EndsNumber rest)
    (reads : fraction? cs = some (fraction, tail)) :
    fraction? (cs ++ rest) = some (fraction, tail ++ rest) := by
  cases cs with
  | nil =>
      cases reads
      cases rest with
      | nil => rfl
      | cons c rest => exact fraction?_of_ne (ends c rfl).2.1 rest
  | cons c cs =>
      by_cases point : c = '.'
      · subst point
        simp only [fraction?, List.cons_append, digits_append ends] at reads ⊢
        cases read : digits cs with
        | mk ds left =>
            rw [read] at reads
            cases ds with
            | nil => cases reads
            | cons d ds =>
                cases reads
                rfl
      · rw [fraction?_of_ne point] at reads
        cases reads
        exact fraction?_of_ne point (cs ++ rest)

/-- The sign in front of an exponent's digits, and what follows it. Without one it goes up. -/
def exponentSign (cs : List Char) : Bool × List Char :=
  match cs with
  | '+' :: rest => (true, rest)
  | '-' :: rest => (false, rest)
  | _ => (true, cs)

/-- What follows does not change the sign of an exponent. -/
theorem exponentSign_append {c : Char} (cs rest : List Char) :
    exponentSign (c :: cs ++ rest) =
      ((exponentSign (c :: cs)).1, (exponentSign (c :: cs)).2 ++ rest) := by
  by_cases plus : c = '+'
  · subst plus
    rfl
  · by_cases minus : c = '-'
    · subst minus
      rfl
    · simp [exponentSign, plus, minus]

/-- Behind the mark of an exponent stand a sign and digits. -/
theorem exponent?_of_mark {c : Char} (marks : c = 'e' ∨ c = 'E') (cs : List Char) :
    exponent? (c :: cs) = match digits (exponentSign cs).2 with
      | ([], _) => none
      | (ds, rest) => some (some ((exponentSign cs).1, ds), rest) := by
  unfold exponent?
  simp only [if_pos marks]
  rfl

/-- What follows the end of a number does not change its exponent. -/
theorem exponent?_append {exponent : Option (Bool × List Nat)} (ends : EndsNumber rest)
    (reads : exponent? cs = some (exponent, tail)) :
    exponent? (cs ++ rest) = some (exponent, tail ++ rest) := by
  cases cs with
  | nil =>
      cases reads
      cases rest with
      | nil => rfl
      | cons c rest =>
          obtain ⟨_, _, lower, upper⟩ := ends c rfl
          simp [exponent?, lower, upper]
  | cons c cs =>
      by_cases marks : c = 'e' ∨ c = 'E'
      · cases cs with
        | nil =>
            rw [exponent?_of_mark marks] at reads
            cases reads
        | cons sign cs =>
            rw [exponent?_of_mark marks] at reads
            rw [List.cons_append, exponent?_of_mark marks, exponentSign_append, digits_append ends]
            cases read : digits (exponentSign (sign :: cs)).2 with
            | mk ds left =>
                rw [read] at reads
                cases ds with
                | nil => cases reads
                | cons d ds =>
                    cases reads
                    rfl
      · simp only [exponent?, marks, if_false, List.cons_append] at reads ⊢
        cases reads
        rfl

/-! ## Numbers -/

/-- What follows the end of a number does not change it. -/
theorem number?_append {n : Number} (ends : EndsNumber rest)
    (reads : number? negative cs = some (n, tail)) :
    number? negative (cs ++ rest) = some (n, tail ++ rest) := by
  unfold number? at reads ⊢
  rw [digits_append ends]
  cases read : digits cs with
  | mk whole left =>
      rw [read] at reads
      simp only [Option.bind_eq_bind] at reads ⊢
      split at reads
      · cases reads
      · cases reads
      · obtain ⟨⟨fraction, left⟩, fractionRead, reads⟩ := Option.bind_eq_some_iff.mp reads
        obtain ⟨⟨exponent, left⟩, exponentRead, reads⟩ := Option.bind_eq_some_iff.mp reads
        obtain ⟨value, valued, reads⟩ := Option.bind_eq_some_iff.mp reads
        cases reads
        rw [fraction?_append ends fractionRead, Option.bind_some,
          exponent?_append ends exponentRead,
          Option.bind_some, valued]
        rfl

/-! ## Whole numbers -/

/-- The digits of a significand that stays within 64 bits are all taken up. -/
theorem accumulate_of_le (significand : Nat) {ds : List Nat}
    (fits : ds.foldl (fun n d => n * 10 + d) significand ≤ maxWord) :
    accumulate significand ds = (ds.foldl (fun n d => n * 10 + d) significand, []) := by
  have grows (ds : List Nat) (n : Nat) : n ≤ ds.foldl (fun n d => n * 10 + d) n := by
    induction ds generalizing n with
    | nil => exact Nat.le_refl n
    | cons d ds ih => exact Nat.le_trans (by omega) (ih (n * 10 + d))
  induction ds generalizing significand with
  | nil => rfl
  | cons d ds ih =>
      have first : significand * 10 + d ≤ maxWord := Nat.le_trans (grows ds _) fits
      rw [accumulate, if_pos first]
      exact ih _ fits

/-- The digits of a number are all digits. -/
theorem digits_toDigits (n : Nat) :
    digits (Nat.toDigits 10 n) = ((Nat.toDigits 10 n).map (fun c => c.toNat - '0'.toNat), []) := by
  have decimal : ∀ c ∈ Nat.toDigits 10 n, c.isDigit = true := by
    intro c member
    exact Nat.isDigit_of_mem_toDigits (by decide) (by decide) member
  have whole : (Nat.toDigits 10 n).takeWhile Char.isDigit = Nat.toDigits 10 n :=
    List.takeWhile_eq_self_iff.mpr decimal
  have nothing : (Nat.toDigits 10 n).dropWhile Char.isDigit = [] :=
    List.dropWhile_eq_nil_iff.mpr decimal
  rw [digits, whole, nothing]

/-- The digits of a number stand for it. -/
theorem digitsValue_toDigits (n : Nat) :
    ((Nat.toDigits 10 n).map (fun c => c.toNat - '0'.toNat)).foldl (fun n d => n * 10 + d) 0 =
      n := by
  have value : Nat.ofDigitChars 10 (Nat.toDigits 10 n) 0 = n := Nat.ofDigitChars_ten_toDigits
  rw [List.foldl_map]
  rw [Nat.ofDigitChars_eq_foldl] at value
  simpa only [Nat.mul_comm 10] using value

/-- Only zero is written with a zero in front. -/
theorem head_toDigits_ne_zero {n : Nat} (positive : 0 < n) :
    ∀ c ∈ (Nat.toDigits 10 n).head?, c ≠ '0' := by
  have single : ∀ n < 10, 0 < n → n.digitChar ≠ '0' := by decide
  induction n using Nat.strongRecOn with
  | ind n ih =>
      intro c first
      rw [Nat.toDigits_eq_if (by decide)] at first
      by_cases small : n < 10
      · rw [if_pos small] at first
        cases first
        exact single n small positive
      · rw [if_neg small, List.head?_append, Option.mem_def, Option.or_eq_some_iff] at first
        rcases first with leading | ⟨empty, _⟩
        · exact ih (n / 10) (by omega) (by omega) c leading
        · exact absurd (List.head?_eq_none_iff.mp empty) Nat.toDigits_ne_nil

theorem value_ne_zero {c : Char} (digit : c.isDigit = true) (other : c ≠ '0') :
    c.toNat - '0'.toNat ≠ 0 := by
  intro zero
  refine other (Char.toNat_inj.mp ?_)
  have low : '0'.toNat ≤ c.toNat := by
    simp only [Char.isDigit, Bool.and_eq_true, decide_eq_true_eq] at digit
    exact digit.1
  omega

/-- The digits of a number are read as its digits: none of several is a leading zero. -/
theorem number?_toDigits {n : Nat} {value : Number}
    (valued : NumberText.value? {
      negative := negative
      whole := (Nat.toDigits 10 n).map (fun c => c.toNat - '0'.toNat)
      fraction := none
      exponent := none } = some value) :
    number? negative (Nat.toDigits 10 n) = some (value, []) := by
  unfold number?
  rw [digits_toDigits]
  simp only [Option.bind_eq_bind]
  split
  · rename_i empty
    exact absurd (List.map_eq_nil_iff.mp empty) Nat.toDigits_ne_nil
  · rename_i d ds zero
    exfalso
    obtain ⟨c, cs, written, head, others⟩ := List.map_eq_cons_iff.mp zero
    have digit : c.isDigit = true := by
      refine Nat.isDigit_of_mem_toDigits (b := 10) (n := n) (by decide) (by decide) ?_
      rw [written]
      exact List.mem_cons_self
    by_cases positive : 0 < n
    · exact value_ne_zero digit (head_toDigits_ne_zero positive c (by rw [written]; rfl)) head
    · cases Nat.eq_zero_of_not_pos positive
      rw [Nat.toDigits_zero] at written
      cases written
      cases others
  · rw [show fraction? [] = some (none, []) from rfl, Option.bind_some,
      show exponent? [] = some (none, []) from rfl, Option.bind_some, valued]
    rfl

/-- The digits of a number that fits are all taken. -/
theorem accumulate_toDigits {n : Nat} (fits : n ≤ maxWord) :
    accumulate 0 ((Nat.toDigits 10 n).map (fun c => c.toNat - '0'.toNat)) = (n, []) := by
  have value := digitsValue_toDigits n
  have taken := accumulate_of_le 0 (value.symm ▸ fits)
  rwa [value] at taken

/-- The digits of a number that fits are read as it. -/
theorem number?_ofNat {n : Nat} (fits : n ≤ maxWord) :
    number? false (Nat.toDigits 10 n) = some (.whole n, []) := by
  apply number?_toDigits
  simp only [NumberText.value?, accumulate_toDigits fits]
  rfl

/-- So are they behind a minus sign. -/
theorem number?_neg {n : Nat} (positive : 0 < n) (fits : n ≤ 9223372036854775808) :
    number? true (Nat.toDigits 10 n) = some (.whole (-n), []) := by
  have inside : ¬ (n = 0 ∨ 9223372036854775808 < n) := by omega
  apply number?_toDigits
  simp only [NumberText.value?, accumulate_toDigits (Nat.le_trans fits (by decide)), inside]
  rfl

end Reader

end QueryRewriting.Json
