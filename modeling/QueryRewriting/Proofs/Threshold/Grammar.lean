import QueryRewriting.Proofs.Decimal.Numerals
import QueryRewriting.Proofs.Text.Words
import QueryRewriting.Threshold

/-! # The grammar of thresholds

A requirement is a signed number, with a percent sign behind it or not. A condition is a bound and a
requirement with `<` between them and blanks on either side of it, and a chain is conditions with
blanks between them and increasing bounds. A text is read as a threshold exactly if it is a
requirement or a chain but for the blanks around it, and then it is read as just that one.

Reading first drops the blanks at each `<`. A text is one way to loosen what is left of it, so the
words of the tight text are found again, in the same order, in the text itself. -/

namespace QueryRewriting

open Decimal Text

/-! ## Grammar -/

/-- A text that writes a requirement. -/
inductive Requirement.WrittenAs : Requirement → List Char → Prop where
  | count {cs} {n : Int64} (signed : Signed cs n.toInt) : WrittenAs (.count n) cs
  | percent {cs} {p : Int64} (signed : Signed cs p.toInt) : WrittenAs (.percent p) (cs ++ ['%'])

/-- A text that writes a condition, which may have blanks on either side of its `<`. -/
inductive Condition.WrittenAs : Condition → List Char → Prop where
  | intro {bound before behind written} {b : UInt32} {requirement : Requirement}
      (unsigned : Unsigned bound b.toNat) (front : Blanks before) (back : Blanks behind)
      (writes : requirement.WrittenAs written) :
      WrittenAs ⟨b, requirement⟩ (bound ++ (before ++ '<' :: (behind ++ written)))

/-- A text that writes some conditions, with blanks between them. -/
inductive Condition.Sequence : List Condition → List Char → Prop where
  | last {condition : Condition} {cs} (writes : condition.WrittenAs cs) : Sequence [condition] cs
  | more {condition : Condition} {conditions cs c gap rest} (writes : condition.WrittenAs cs)
      (parts : isBlankChar c = true) (blank : Blanks gap) (sequence : Sequence conditions rest) :
      Sequence (condition :: conditions) (cs ++ c :: (gap ++ rest))

/-- A text that writes what a threshold says. -/
inductive ThresholdRule.WrittenAs : ThresholdRule → List Char → Prop where
  | simple {requirement : Requirement} {cs} (writes : requirement.WrittenAs cs) :
      WrittenAs (.simple requirement) cs
  | chain {conditions cs} (sequence : Condition.Sequence conditions cs)
      (increasing : conditions.Pairwise (·.bound < ·.bound)) : WrittenAs (.chain conditions) cs

/-- A text in which no character is blank or a `<`. -/
def Plain (cs : List Char) : Prop := ∀ c ∈ cs, isBlankChar c = false ∧ c ≠ '<'

variable {cs rest tight loose gap word : List Char} {c : Char} {requirement : Requirement}
  {condition : Condition} {conditions : List Condition} {words : List (List Char)}

/-! ## Requirements -/

theorem Requirement.WrittenAs.ne_nil (writes : requirement.WrittenAs cs) : cs ≠ [] := by
  cases writes with
  | count signed => exact signed.ne_nil
  | percent _ => simp

/-- The characters of a requirement. -/
theorem Requirement.WrittenAs.mem (writes : requirement.WrittenAs cs) :
    ∀ c ∈ cs, c.isDigit = true ∨ c = '+' ∨ c = '-' ∨ c = '%' := by
  cases writes with
  | count signed => exact fun c member => (signed.mem c member).imp id (Or.imp id .inl)
  | percent signed =>
      intro c member
      rcases List.mem_append.mp member with before | last
      · exact (signed.mem c before).imp id (Or.imp id .inl)
      · exact .inr (.inr (.inr (List.mem_singleton.mp last)))

/-- The characters of numbers are neither blank nor `<`. -/
theorem plain_of_mem (written : c.isDigit = true ∨ c = '+' ∨ c = '-' ∨ c = '%') :
    isBlankChar c = false ∧ c ≠ '<' := by
  rcases written with digit | rfl | rfl | rfl
  · refine ⟨isBlankChar_of_isDigit digit, ?_⟩
    rintro rfl
    cases digit
  all_goals decide

/-- A requirement is plain. -/
theorem Requirement.WrittenAs.plain (writes : requirement.WrittenAs cs) : Plain cs :=
  fun c member => plain_of_mem (writes.mem c member)

/-- A number is plain. -/
theorem plain_of_unsigned {n : Nat} (unsigned : Unsigned cs n) : Plain cs :=
  fun c member => plain_of_mem ((unsigned.mem c member).imp id .inl)

/-- A requirement is read off exactly the texts that write it. -/
theorem readRequirement?_eq_some_iff :
    readRequirement? cs = some requirement ↔ requirement.WrittenAs cs := by
  unfold readRequirement?
  split
  · rename_i reversed ends
    have percent : cs = reversed.reverse ++ ['%'] := by
      rw [← List.reverse_reverse cs, ends, List.reverse_cons]
    constructor
    · intro reads
      obtain ⟨p, number, rfl⟩ := Option.map_eq_some_iff.mp reads
      exact percent ▸ .percent (readInt64?_eq_some_iff.mp number)
    · intro writes
      cases writes with
      | count signed =>
          have odd := signed.mem '%' (percent ▸ by simp)
          exact absurd odd (by decide)
      | percent signed =>
          obtain ⟨rfl, _⟩ := List.append_inj' percent rfl
          rw [readInt64?_eq_some_iff.mpr signed]
          rfl
  · rename_i other
    constructor
    · intro reads
      obtain ⟨n, number, rfl⟩ := Option.map_eq_some_iff.mp reads
      exact .count (readInt64?_eq_some_iff.mp number)
    · intro writes
      cases writes with
      | count signed =>
          rw [readInt64?_eq_some_iff.mpr signed]
          rfl
      | percent signed => exact (other _ List.reverse_concat).elim

/-! ## Conditions -/

/-- A condition is read off a word exactly if the word is a bound and a requirement around a `<`. -/
theorem readCondition_eq_ok_iff :
    readCondition word = .ok condition ↔ ∃ bound written, word = bound ++ '<' :: written ∧
      Unsigned bound condition.bound.toNat ∧ condition.requirement.WrittenAs written := by
  constructor
  · intro reads
    have cut := (List.takeWhile_append_dropWhile (p := (· != '<')) (l := word)).symm
    have angle := List.head?_dropWhile_not (· != '<') word
    unfold readCondition at reads
    split at reads
    · cases reads
    rename_i first written behind
    rw [behind] at cut angle
    have same : first = '<' := by simpa using angle
    subst same
    split at reads
    · cases reads
    rename_i n number
    obtain ⟨unsigned, small⟩ := readUnsigned?_eq_some_iff.mp number
    split at reads
    · cases reads
    rename_i requirement required
    cases reads
    refine ⟨_, written, cut, ?_, readRequirement?_eq_some_iff.mp required⟩
    rwa [UInt32.toNat_ofNat_of_lt' small]
  · rintro ⟨bound, written, rfl, unsigned, writes⟩
    have before : ∀ c ∈ bound, (c != '<') = true := fun c member =>
      bne_iff_ne.mpr (plain_of_unsigned unsigned c member).2
    have inside : Unsigned bound condition.bound.toNat ∧ condition.bound.toNat < 2 ^ 32 :=
      ⟨unsigned, condition.bound.toNat_lt⟩
    have behind : (bound ++ '<' :: written).dropWhile (· != '<') = '<' :: written := by
      rw [List.dropWhile_append_of_pos before]
      rfl
    have front : (bound ++ '<' :: written).takeWhile (· != '<') = bound := by
      rw [List.takeWhile_append_of_pos before]
      exact List.append_nil bound
    unfold readCondition
    rw [behind, front, readUnsigned?_eq_some_iff.mpr inside]
    simp only [readRequirement?_eq_some_iff.mpr writes, UInt32.ofNat_toNat]

/-- Conditions are read off words one by one, and their bounds must increase. -/
theorem readConditions_eq_ok_iff {last : Option UInt32} :
    readConditions last words = .ok conditions ↔
      List.Forall₂ (fun word condition => readCondition word = .ok condition) words conditions ∧
        (∀ bound ∈ last, ∀ condition ∈ conditions, bound < condition.bound) ∧
        conditions.Pairwise (·.bound < ·.bound) := by
  induction words generalizing last conditions with
  | nil =>
      constructor
      · rintro ⟨⟩
        exact ⟨.nil, nofun, .nil⟩
      · rintro ⟨each, _⟩
        cases each
        rfl
  | cons word words ih =>
      rw [readConditions]
      cases read : readCondition word with
      | error fault =>
          refine ⟨nofun, fun ⟨reads, _⟩ => ?_⟩
          cases reads with
          | cons first _ => cases read.symm.trans first
      | ok first =>
          simp only [bind, Except.bind]
          -- Each bound is compared with the one before it only; that is enough for all pairs.
          by_cases after : ∀ bound ∈ last, bound < first.bound
          · have follows : last.any (first.bound ≤ ·) = false := by
              cases last with
              | none => rfl
              | some bound => simpa [UInt32.not_le] using after bound rfl
            rw [follows, if_neg Bool.false_ne_true]
            constructor
            · intro reads
              split at reads
              · cases reads
              rename_i rest later
              cases reads
              obtain ⟨each, above, increasing⟩ := ih.mp later
              refine ⟨.cons read each, fun bound some => ?_, .cons (above _ rfl) increasing⟩
              refine List.forall_mem_cons.mpr ⟨after bound some, fun condition member => ?_⟩
              exact UInt32.lt_trans (after bound some) (above _ rfl condition member)
            · rintro ⟨each, _, increasing⟩
              cases each with
              | cons same each =>
                  cases read.symm.trans same
                  obtain ⟨above, increasing⟩ := List.pairwise_cons.mp increasing
                  rw [ih.mpr ⟨each, by rintro _ ⟨⟩; exact above, increasing⟩]
                  rfl
          · have follows : last.any (first.bound ≤ ·) = true := by
              cases last with
              | none => exact (after nofun).elim
              | some bound => simpa [UInt32.not_lt] using after
            rw [follows, if_pos rfl]
            refine ⟨nofun, fun ⟨each, above, _⟩ => (after fun bound some => ?_).elim⟩
            cases each with
            | cons same _ =>
                cases read.symm.trans same
                exact above bound some _ List.mem_cons_self

/-! ## Tight texts -/

/-- The second text is the first one with blanks put in on either side of each `<`. -/
inductive Loosens : List Char → List Char → Prop where
  | nil : Loosens [] []
  | char {c : Char} {tight loose : List Char} (other : c ≠ '<') (loosens : Loosens tight loose) :
      Loosens (c :: tight) (c :: loose)
  | angle {before behind tight loose : List Char} (front : Blanks before) (back : Blanks behind)
      (loosens : Loosens tight loose) :
      Loosens ('<' :: tight) (before ++ '<' :: (behind ++ loose))

/-- Two texts can be loosened one after the other. -/
theorem Loosens.append {front looseFront : List Char} (first : Loosens front looseFront)
    (second : Loosens tight loose) : Loosens (front ++ tight) (looseFront ++ loose) := by
  induction first with
  | nil => exact second
  | char other _ ih => exact .char other ih
  | angle front back _ ih =>
      have whole := Loosens.angle front back ih
      simpa using whole

/-- What loosens two texts in a row is what loosens the one and what loosens the other. -/
theorem Loosens.of_append {front : List Char} (loosens : Loosens (front ++ tight) cs) :
    ∃ first second, cs = first ++ second ∧ Loosens front first ∧ Loosens tight second := by
  induction front generalizing cs with
  | nil => exact ⟨[], cs, rfl, .nil, loosens⟩
  | cons c front ih =>
      cases loosens with
      | char other loosens =>
          obtain ⟨first, second, rfl, own, rest⟩ := ih loosens
          exact ⟨c :: first, second, rfl, .char other own, rest⟩
      | @angle before behind _ _ blankBefore blankBehind loosens =>
          obtain ⟨first, second, rfl, own, rest⟩ := ih loosens
          exact ⟨before ++ '<' :: (behind ++ first), second, by simp,
            .angle blankBefore blankBehind own, rest⟩

/-- A text without `<` is not loosened. -/
theorem Loosens.eq_of_not_mem (plain : '<' ∉ tight) (loosens : Loosens tight loose) :
    loose = tight := by
  induction loosens with
  | nil => rfl
  | char _ _ ih => rw [ih fun member => plain (List.mem_cons_of_mem _ member)]
  | angle => exact (plain List.mem_cons_self).elim

/-- What is loosened behind an ordinary character begins with it. -/
theorem Loosens.of_cons (other : c ≠ '<') (loosens : Loosens (c :: tight) cs) :
    ∃ rest, cs = c :: rest ∧ Loosens tight rest := by
  cases loosens with
  | char _ loosens => exact ⟨_, rfl, loosens⟩
  | angle => exact (other rfl).elim

/-- There is no angle among blanks. -/
theorem not_mem_of_blanks (blank : Blanks gap) : '<' ∉ gap := by
  intro member
  have := blank '<' member
  revert this
  decide

/-- There is no angle in what is plain. -/
theorem not_mem_of_plain (plain : Plain cs) : '<' ∉ cs := fun member => (plain '<' member).2 rfl

/-- **A text loosens what is left of it** when the blanks at each `<` are dropped. What has been
kept so far is what is left of the text so far. -/
theorem loosens_tighten (kept seen cs : List Char) (loosens : Loosens kept.reverse seen) :
    Loosens (tighten kept cs) (seen ++ cs) := by
  induction cs generalizing kept seen with
  | nil =>
      rw [List.append_nil]
      exact loosens
  | cons c cs ih =>
      rw [tighten, List.append_cons]
      split
      · rename_i angle
        subst angle
        -- The blanks read last stand in front of the sign, which may be loosened by them.
        have cut : kept.reverse =
            (kept.dropWhile isBlankChar).reverse ++ (kept.takeWhile isBlankChar).reverse := by
          rw [← List.reverse_append, List.takeWhile_append_dropWhile]
        rw [cut] at loosens
        obtain ⟨front, gap, rfl, first, last⟩ := loosens.of_append
        have blank : Blanks (kept.takeWhile isBlankChar).reverse := fun c member =>
          List.mem_takeWhile_imp (List.mem_reverse.mp member)
        cases last.eq_of_not_mem (not_mem_of_blanks blank)
        refine ih _ _ ?_
        rw [List.reverse_cons, List.append_assoc]
        exact first.append (.angle blank blanks_nil .nil)
      · rename_i other
        split
        · rename_i skips
          simp only [Bool.and_eq_true, beq_iff_eq] at skips
          obtain ⟨blank, front⟩ := skips
          refine ih _ _ ?_
          obtain ⟨older, rfl⟩ : ∃ older, kept = '<' :: older := by
            cases kept with
            | nil => cases front
            | cons d older => exact ⟨older, by rw [Option.some.inj front]⟩
          rw [List.reverse_cons] at loosens ⊢
          obtain ⟨before, last, rfl, first, angle⟩ := loosens.of_append
          rw [List.append_assoc]
          refine first.append ?_
          cases angle with
          | char absurd _ => exact (absurd rfl).elim
          | @angle before behind _ _ front back rest =>
              cases rest
              have more : Blanks (behind ++ [c]) := by
                intro d member
                rcases List.mem_append.mp member with old | new
                · exact back d old
                · exact List.mem_singleton.mp new ▸ blank
              simpa using Loosens.angle front more .nil
        · refine ih _ _ ?_
          rw [List.reverse_cons]
          exact loosens.append (.char other .nil)

/-! ## From words to conditions -/

/-- A text that loosens a word off which a condition is read writes this condition. -/
theorem Loosens.writtenAs (loosens : Loosens word loose)
    (reads : readCondition word = .ok condition) : condition.WrittenAs loose := by
  obtain ⟨bound, written, rfl, unsigned, writes⟩ := readCondition_eq_ok_iff.mp reads
  obtain ⟨first, second, rfl, own, angle⟩ := loosens.of_append
  cases own.eq_of_not_mem (not_mem_of_plain (plain_of_unsigned unsigned))
  cases angle with
  | char absurd _ => exact (absurd rfl).elim
  | angle front back rest =>
      cases rest.eq_of_not_mem (not_mem_of_plain writes.plain)
      exact .intro unsigned front back writes

/-- A text that loosens some words off which conditions are read writes these conditions, but for
the blanks around it. -/
theorem Loosens.sequence (parted : Parted tight words) (loosens : Loosens tight loose)
    (each : List.Forall₂ (fun word condition => readCondition word = .ok condition) words
      conditions) :
    ∃ front body back, Blanks front ∧ Blanks back ∧ loose = front ++ (body ++ back) ∧
      (conditions = [] ∧ body = [] ∨ Condition.Sequence conditions body) := by
  induction parted generalizing loose conditions with
  | blanks blank =>
      cases each
      cases loosens.eq_of_not_mem (not_mem_of_blanks blank)
      exact ⟨_, [], [], blank, blanks_nil, (List.append_nil _).symm, .inl ⟨rfl, rfl⟩⟩
  | last blank isWord =>
      cases each with
      | cons reads none =>
          cases none
          obtain ⟨front, second, rfl, own, inside⟩ := loosens.of_append
          cases own.eq_of_not_mem (not_mem_of_blanks blank)
          exact ⟨_, second, [], blank, blanks_nil, by rw [List.append_nil],
            .inr (.last (inside.writtenAs reads))⟩
  | @more gap word c rest words blank isWord parts parted ih =>
      cases each with
      | cons reads each =>
          obtain ⟨lead, inside, rfl, own, follows⟩ := loosens.of_append
          cases own.eq_of_not_mem (not_mem_of_blanks blank)
          obtain ⟨body, behind, rfl, first, follows⟩ := follows.of_append
          have writes := first.writtenAs reads
          have other : c ≠ '<' := by
            rintro rfl
            exact absurd parts (by decide)
          obtain ⟨behind, rfl, later⟩ := follows.of_cons other
          obtain ⟨front, others, back, before, after, rfl, written⟩ := ih later each
          rcases written with ⟨rfl, rfl⟩ | sequence
          · refine ⟨gap, body, c :: (front ++ back), blank, ?_, rfl, .inr (.last writes)⟩
            refine blanks_cons_iff.mpr ⟨parts, fun d member => ?_⟩
            exact (List.mem_append.mp member).elim (before d) (after d)
          · exact ⟨gap, body ++ c :: (front ++ others), back, blank, after, by simp,
              .inr (.more writes parts before sequence)⟩

/-! ## From conditions to words -/

/-- What is plain is kept. -/
theorem tighten_plain_append (plain : Plain word) (kept rest : List Char) :
    tighten kept (word ++ rest) = tighten (word.reverse ++ kept) rest := by
  induction word generalizing kept with
  | nil => rfl
  | cons c word ih =>
      obtain ⟨⟨solid, other⟩, plain⟩ := List.forall_mem_cons.mp plain
      rw [List.cons_append, tighten, if_neg other, solid, Bool.false_and,
        if_neg Bool.false_ne_true, ih plain, List.reverse_cons, List.append_assoc,
        List.singleton_append]

/-- Blanks are kept as long as no angle comes. -/
theorem tighten_blanks_append (blank : Blanks gap) {kept : List Char}
    (apart : kept.head? ≠ some '<') (rest : List Char) :
    tighten kept (gap ++ rest) = tighten (gap.reverse ++ kept) rest := by
  induction gap generalizing kept with
  | nil => rfl
  | cons c gap ih =>
      have other : c ≠ '<' := fun same =>
        not_mem_of_blanks blank (same ▸ List.mem_cons_self)
      obtain ⟨_, blank⟩ := blanks_cons_iff.mp blank
      have kept : (kept.head? == some '<') = false := beq_eq_false_iff_ne.mpr apart
      rw [List.cons_append, tighten, if_neg other, kept, Bool.and_false,
        if_neg Bool.false_ne_true, ih blank (by simpa using other), List.reverse_cons,
        List.append_assoc, List.singleton_append]

/-- An angle takes away the blanks in front of it. -/
theorem tighten_angle (blank : Blanks gap) {kept : List Char}
    (solid : ∀ c ∈ kept.head?, isBlankChar c = false) (rest : List Char) :
    tighten (gap.reverse ++ kept) ('<' :: rest) = tighten ('<' :: kept) rest := by
  rw [tighten, if_pos rfl,
    List.dropWhile_append_of_pos fun c member => blank c (List.mem_reverse.mp member),
    dropWhile_of_head? solid]

/-- Blanks behind an angle are passed over. -/
theorem tighten_blanks_behind (blank : Blanks gap) (kept rest : List Char) :
    tighten ('<' :: kept) (gap ++ rest) = tighten ('<' :: kept) rest := by
  induction gap with
  | nil => rfl
  | cons c gap ih =>
      have other : c ≠ '<' := fun same =>
        not_mem_of_blanks blank (same ▸ List.mem_cons_self)
      obtain ⟨first, blank⟩ := blanks_cons_iff.mp blank
      rw [List.cons_append, tighten, if_neg other, first, Bool.true_and, if_pos (by rfl), ih blank]

/-- What was kept last of a plain word. -/
theorem head?_reverse_append (plain : Plain word) (nonempty : word ≠ []) (kept : List Char) :
    ∀ c ∈ (word.reverse ++ kept).head?, isBlankChar c = false ∧ c ≠ '<' := by
  obtain ⟨last, others, ends⟩ :=
    List.exists_cons_of_ne_nil (List.reverse_ne_nil_iff.mpr nonempty)
  rw [ends]
  rintro _ ⟨⟩
  exact plain last (List.mem_reverse.mp (ends ▸ List.mem_cons_self))

/-- What is left of a condition is a word off which it is read. -/
theorem Condition.WrittenAs.exists_word (writes : condition.WrittenAs cs) :
    ∃ word, IsWord word ∧ readCondition word = .ok condition ∧
      (∀ kept, (word.reverse ++ kept).head? ≠ some '<') ∧
      ∀ kept rest, tighten kept (cs ++ rest) = tighten (word.reverse ++ kept) rest := by
  cases writes with
  | @intro bound before behind written b requirement unsigned front back writes =>
      have plain := plain_of_unsigned unsigned
      have solid : Solid (bound ++ '<' :: written) := by
        intro c member
        rcases List.mem_append.mp member with own | rest
        · exact (plain c own).1
        · rcases List.mem_cons.mp rest with rfl | own
          · decide
          · exact (writes.plain c own).1
      refine ⟨bound ++ '<' :: written, ⟨solid, by simp⟩,
        readCondition_eq_ok_iff.mpr ⟨bound, written, rfl, unsigned, writes⟩, ?_, ?_⟩
      · intro kept last
        rw [List.reverse_append, List.reverse_cons, List.append_assoc, List.append_assoc] at last
        exact (head?_reverse_append writes.plain writes.ne_nil _ '<' last).2 rfl
      · intro kept rest
        have last := head?_reverse_append plain unsigned.ne_nil kept
        calc tighten kept (bound ++ (before ++ '<' :: (behind ++ written)) ++ rest)
            = tighten kept (bound ++ (before ++ '<' :: (behind ++ (written ++ rest)))) := by simp
          _ = tighten (before.reverse ++ (bound.reverse ++ kept))
                ('<' :: (behind ++ (written ++ rest))) := by
              rw [tighten_plain_append plain,
                tighten_blanks_append front fun angle => (last '<' angle).2 rfl]
          _ = tighten (written.reverse ++ '<' :: (bound.reverse ++ kept)) rest := by
              rw [tighten_angle front fun c member => (last c member).1,
                tighten_blanks_behind back, tighten_plain_append writes.plain]
          _ = tighten ((bound ++ '<' :: written).reverse ++ kept) rest := by simp

/-- What is left of some conditions is words off which they are read. -/
theorem Condition.Sequence.exists_words (sequence : Condition.Sequence conditions cs) :
    ∃ tight words, Parted tight words ∧
      List.Forall₂ (fun word condition => readCondition word = .ok condition) words conditions ∧
      ∀ kept, tighten kept cs = kept.reverse ++ tight := by
  induction sequence with
  | @last condition cs writes =>
      obtain ⟨word, isWord, reads, _, tightens⟩ := writes.exists_word
      refine ⟨word, [word], @Parted.last [] _ blanks_nil isWord, .cons reads .nil, fun kept => ?_⟩
      have whole := tightens kept []
      rw [List.append_nil] at whole
      rw [whole, tighten, List.reverse_append, List.reverse_reverse]
  | @more condition conditions cs c gap rest writes parts blank _ ih =>
      obtain ⟨word, isWord, reads, apart, tightens⟩ := writes.exists_word
      obtain ⟨tight, words, parted, each, rests⟩ := ih
      have blanks : Blanks (c :: gap) := blanks_cons_iff.mpr ⟨parts, blank⟩
      refine ⟨word ++ c :: (gap ++ tight), word :: words,
        @Parted.more [] _ _ _ _ blanks_nil isWord parts (parted.blanks_append blank),
        .cons reads each, fun kept => ?_⟩
      rw [tightens, ← List.cons_append, tighten_blanks_append blanks (apart kept), rests]
      simp

/-! ## Thresholds -/

/-- There is an angle in a chain of conditions. -/
theorem Condition.Sequence.mem_angle (sequence : Condition.Sequence conditions cs) : '<' ∈ cs := by
  cases sequence with
  | last writes => cases writes with | intro => simp
  | more writes => cases writes with | intro => simp

/-- **What a stripped text is read as** is what it writes. -/
theorem ThresholdRule.read_eq_ok_iff {rule : ThresholdRule} (stripped : Strips cs cs) :
    ThresholdRule.read cs = .ok rule ↔ rule.WrittenAs cs := by
  unfold ThresholdRule.read
  split
  · rename_i empty
    cases List.isEmpty_iff.mp empty
    refine ⟨nofun, fun writes => ?_⟩
    cases writes with
    | simple writes => exact (writes.ne_nil rfl).elim
    | chain sequence _ => exact (List.not_mem_nil sequence.mem_angle).elim
  split
  · rename_i angle
    have angle : '<' ∈ cs := by simpa using angle
    constructor
    · intro reads
      cases read : readConditions none (Text.words (tighten [] cs)) with
      | error fault =>
          rw [read] at reads
          cases reads
      | ok conditions =>
          rw [read] at reads
          cases reads
          obtain ⟨each, _, increasing⟩ := readConditions_eq_ok_iff.mp read
          obtain ⟨front, body, back, before, behind, around, written⟩ :=
            (loosens_tighten [] [] cs .nil).sequence (words_eq_iff.mp rfl) each
          cases stripped.eq_of_around before behind around
          -- Blanks around the chain were stripped, so none are left outside of it.
          rcases written with ⟨_, rfl⟩ | sequence
          · exact (List.not_mem_nil angle).elim
          · exact .chain sequence increasing
    · intro writes
      cases writes with
      | simple writes => exact (not_mem_of_plain writes.plain angle).elim
      | chain sequence increasing =>
          obtain ⟨tight, words, parted, each, tightens⟩ := sequence.exists_words
          have read : readConditions none words = .ok _ :=
            readConditions_eq_ok_iff.mpr ⟨each, nofun, increasing⟩
          rw [tightens [], List.reverse_nil, List.nil_append, words_eq_iff.mpr parted, read]
          rfl
  · rename_i none
    have none : '<' ∉ cs := by simpa using none
    constructor
    · intro reads
      split at reads
      · rename_i requirement read
        cases reads
        exact .simple (readRequirement?_eq_some_iff.mp read)
      · cases reads
    · intro writes
      cases writes with
      | simple writes => rw [readRequirement?_eq_some_iff.mpr writes]
      | chain sequence _ => exact (none sequence.mem_angle).elim

/-- A threshold keeps the stripped text and what this text writes. -/
theorem Threshold.read_eq_ok_iff {text : String} {threshold : Threshold} :
    Threshold.read text = .ok threshold ↔
      Strips text.toList threshold.text.toList ∧
        threshold.rule.WrittenAs threshold.text.toList := by
  obtain ⟨kept, rule⟩ := threshold
  have strips : Strips text.toList (trim text).toList := trim_eq_iff.mp rfl
  have reads : ThresholdRule.read (trim text).toList = .ok rule ↔
      rule.WrittenAs (trim text).toList := ThresholdRule.read_eq_ok_iff strips.self
  unfold Threshold.read
  rw [← trim_eq_iff]
  cases read : ThresholdRule.read (trim text).toList with
  | error fault =>
      simp only [read, reduceCtorEq, false_iff, not_and]
      rintro rfl writes
      cases read.symm.trans (reads.mpr writes)
  | ok other =>
      simp only [read, Except.ok.injEq, Threshold.mk.injEq]
      refine and_congr_right fun same => ?_
      rw [← same, ← reads, read, Except.ok.injEq]

/-- **Reading a threshold follows its grammar.** A text is read as a threshold exactly if it writes
a requirement or a chain but for the blanks around it. The threshold keeps the text without them and
just that requirement, or just those conditions in their order, and it is read off the text that it
keeps. -/
theorem thresholds_follow_grammar (text : String) :
    (∀ threshold, Threshold.read text = .ok threshold ↔
      Strips text.toList threshold.text.toList ∧
        threshold.rule.WrittenAs threshold.text.toList) ∧
    ((∃ threshold, Threshold.read text = .ok threshold) ↔
      ∃ cs rule, Strips text.toList cs ∧ ThresholdRule.WrittenAs rule cs) ∧
    (∀ cs rule other, Strips text.toList cs → ThresholdRule.WrittenAs rule cs →
      ThresholdRule.WrittenAs other cs → other = rule) ∧
    ∀ threshold, Threshold.read text = .ok threshold →
      threshold.text = trim text ∧ Threshold.read threshold.text = .ok threshold := by
  have accepts {cs : List Char} {rule : ThresholdRule} (strips : Strips text.toList cs)
      (writes : rule.WrittenAs cs) : Threshold.read text = .ok ⟨String.ofList cs, rule⟩ := by
    refine Threshold.read_eq_ok_iff.mpr ?_
    rw [String.toList_ofList]
    exact ⟨strips, writes⟩
  refine ⟨fun threshold => Threshold.read_eq_ok_iff, ⟨?_, ?_⟩, ?_, ?_⟩
  · rintro ⟨threshold, read⟩
    obtain ⟨strips, writes⟩ := Threshold.read_eq_ok_iff.mp read
    exact ⟨_, _, strips, writes⟩
  · rintro ⟨cs, rule, strips, writes⟩
    exact ⟨_, accepts strips writes⟩
  · intro cs rule other strips writes another
    have same := (accepts strips another).symm.trans (accepts strips writes)
    exact (Threshold.mk.inj (Except.ok.inj same)).2
  · intro threshold read
    obtain ⟨strips, writes⟩ := Threshold.read_eq_ok_iff.mp read
    exact ⟨(trim_eq_iff.mpr strips).symm, Threshold.read_eq_ok_iff.mpr ⟨strips.self, writes⟩⟩

/-! ### A chain with blanks of several sorts -/

/-- A chain with blanks around it and on either side of its `<`. -/
def looseChain : String := "\u00a0 3 < -1\u3000 +5\t<80%\n"

/-- The chain is read as its two conditions, and it writes nothing else. -/
theorem looseChain_read :
    ∃ threshold, Threshold.read looseChain = .ok threshold ∧
      threshold.text = "3 < -1\u3000 +5\t<80%" ∧
      threshold.rule = .chain [⟨3, .count (-1)⟩, ⟨5, .percent 80⟩] ∧
      (∀ rule, ThresholdRule.WrittenAs rule threshold.text.toList → rule = threshold.rule) ∧
      Threshold.read threshold.text = .ok threshold := by
  have read : (Threshold.read looseChain).toOption =
      some ⟨"3 < -1\u3000 +5\t<80%", .chain [⟨3, .count (-1)⟩, ⟨5, .percent 80⟩]⟩ := by
    decide +kernel
  obtain ⟨follows, _, unique, again⟩ := thresholds_follow_grammar looseChain
  cases found : Threshold.read looseChain with
  | error e =>
      rw [found] at read
      cases read
  | ok threshold =>
      rw [found] at read
      cases read
      obtain ⟨strips, writes⟩ := (follows _).mp found
      exact ⟨_, rfl, rfl, rfl, fun rule => unique _ _ rule strips writes, (again _ found).2⟩

end QueryRewriting
