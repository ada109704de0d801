import Mathlib.Data.List.Induction
import Mathlib.Data.List.TakeWhile
import QueryRewriting.Text.Blank

/-! # Stripped texts and words

Trimming takes away the blanks around a text and nothing else. The words of a text are what stands
between its blanks: a text has these words, in this order, exactly if they are parted by blanks in
it. -/

namespace QueryRewriting.Text

/-- All characters are blank. -/
def Blanks (cs : List Char) : Prop := ∀ c ∈ cs, isBlankChar c = true

/-- No character is blank. -/
def Solid (cs : List Char) : Prop := ∀ c ∈ cs, isBlankChar c = false

/-- A text without the blanks around it. -/
structure Strips (text stripped : List Char) : Prop where
  around : ∃ front back, Blanks front ∧ Blanks back ∧ text = front ++ (stripped ++ back)
  first : ∀ c ∈ stripped.head?, isBlankChar c = false
  last : ∀ c ∈ stripped.getLast?, isBlankChar c = false

/-- A word is some characters that are not blank. -/
structure IsWord (word : List Char) : Prop where
  solid : Solid word
  nonempty : word ≠ []

/-- A text is made of words with blanks between them and around them. -/
inductive Parted : List Char → List (List Char) → Prop where
  | blanks {gap} (blank : Blanks gap) : Parted gap []
  | last {gap word} (blank : Blanks gap) (isWord : IsWord word) : Parted (gap ++ word) [word]
  | more {gap word c rest words} (blank : Blanks gap) (isWord : IsWord word)
      (parts : isBlankChar c = true) (parted : Parted rest words) :
      Parted (gap ++ (word ++ c :: rest)) (word :: words)

variable {c : Char} {cs rest gap word text stripped : List Char} {ws : List (List Char)}

/-! ## Blanks -/

theorem blanks_nil : Blanks [] := fun _ member => (List.not_mem_nil member).elim

/-- Characters are blanks if the first and the others are. -/
theorem blanks_cons_iff : Blanks (c :: cs) ↔ isBlankChar c = true ∧ Blanks cs :=
  List.forall_mem_cons

/-- Characters are solid if the first and the others are. -/
theorem solid_cons_iff : Solid (c :: cs) ↔ isBlankChar c = false ∧ Solid cs :=
  List.forall_mem_cons

/-! ## Trimming -/

/-- What is left by dropping the blanks in front does not begin with one. -/
theorem head?_dropWhile (cs : List Char) :
    ∀ c ∈ (cs.dropWhile isBlankChar).head?, isBlankChar c = false := by
  intro c first
  have left := List.head?_dropWhile_not isBlankChar cs
  rwa [Option.mem_def.mp first] at left

/-- Nothing is dropped if the first character is not blank. -/
theorem dropWhile_of_head? (first : ∀ c ∈ cs.head?, isBlankChar c = false) :
    cs.dropWhile isBlankChar = cs := by
  cases cs with
  | nil => rfl
  | cons c cs => exact List.dropWhile_cons_of_neg (by rw [first c rfl]; exact Bool.false_ne_true)

/-- Trimming strips the blanks off both sides. -/
theorem strips_trimChars (cs : List Char) : Strips cs (trimChars cs) := by
  let middle := cs.dropWhile isBlankChar
  let back := (middle.reverse.takeWhile isBlankChar).reverse
  have ends : middle = trimChars cs ++ back := by
    rw [trimChars, dropEndWhile, ← List.reverse_append, List.takeWhile_append_dropWhile,
      List.reverse_reverse]
  refine ⟨⟨cs.takeWhile isBlankChar, back, ?_, ?_, ?_⟩, ?_, ?_⟩
  · exact fun c member => List.mem_takeWhile_imp member
  · exact fun c member => List.mem_takeWhile_imp (List.mem_reverse.mp member)
  · rw [← ends]
    exact List.takeWhile_append_dropWhile.symm
  · intro c first
    have front : c ∈ middle.head? := by
      rw [ends, List.head?_append, Option.mem_def.mp first]
      rfl
    exact head?_dropWhile cs c front
  · intro c last
    rw [trimChars, dropEndWhile, List.getLast?_reverse] at last
    exact head?_dropWhile _ c last

/-- **Trimming takes away the blanks around a text**, and nothing else. -/
theorem strips_iff : Strips text stripped ↔ stripped = trimChars text := by
  refine ⟨fun strips => ?_, fun same => same ▸ strips_trimChars text⟩
  obtain ⟨⟨front, back, before, behind, rfl⟩, first, last⟩ := strips
  have reversed : ∀ c ∈ stripped.reverse.head?, isBlankChar c = false := by
    rwa [List.head?_reverse]
  have drops : (back.reverse ++ stripped.reverse).dropWhile isBlankChar = stripped.reverse := by
    rw [List.dropWhile_append_of_pos fun c member => behind c (List.mem_reverse.mp member),
      dropWhile_of_head? reversed]
  rw [trimChars, dropEndWhile, List.dropWhile_append_of_pos before]
  cases stripped with
  | nil =>
      rw [List.nil_append, List.dropWhile_eq_nil_iff.mpr behind]
      rfl
  | cons c cs =>
      have kept : (c :: cs ++ back).dropWhile isBlankChar = c :: cs ++ back :=
        dropWhile_of_head? first
      rw [kept, List.reverse_append, drops, List.reverse_reverse]

/-- What is stripped already is left as it is. -/
theorem Strips.self (strips : Strips text stripped) : Strips stripped stripped where
  around := ⟨[], [], blanks_nil, blanks_nil, (List.append_nil _).symm⟩
  first := strips.first
  last := strips.last

/-- There are no blanks around a stripped text to be taken away. -/
theorem Strips.eq_of_around {front back : List Char} (strips : Strips cs cs) (before : Blanks front)
    (behind : Blanks back) (around : cs = front ++ (stripped ++ back)) : cs = stripped := by
  subst around
  cases front with
  | cons c front =>
      have blank := before c List.mem_cons_self
      rw [strips.first c rfl] at blank
      cases blank
  | nil =>
      induction back using List.reverseRecOn with
      | nil => exact List.append_nil stripped
      | append_singleton back c _ =>
          have last : ([] ++ (stripped ++ (back ++ [c]))).getLast? = some c := by simp
          have blank := behind c (List.mem_append_right back List.mem_cons_self)
          rw [strips.last c last] at blank
          cases blank

/-- A text is trimmed to what it is when stripped. -/
theorem trim_eq_iff {text stripped : String} :
    trim text = stripped ↔ Strips text.toList stripped.toList := by
  rw [strips_iff, trim]
  constructor
  · rintro rfl
    exact String.toList_ofList
  · intro same
    rw [← same, String.ofList_toList]

/-- What is left of a text by trimming is empty or can be seen. -/
theorem isBlank_trim {text : String} (visible : (trim text).isEmpty = false) :
    isBlank (trim text) = false := by
  have strips : Strips text.toList (trim text).toList := trim_eq_iff.mp rfl
  have first := strips.first
  have nonempty : (trim text).toList ≠ [] := fun empty => by
    rw [String.toList_eq_nil_iff.mp empty] at visible
    cases visible
  obtain ⟨c, rest, begins⟩ := List.exists_cons_of_ne_nil nonempty
  rw [begins] at first
  rw [isBlank, begins, List.all_cons, first c rfl, Bool.false_and]

/-! ## Words -/

/-- Solid characters go on with the word. -/
theorem wordsBy_solid_append (solid : Solid word) (kept rest : List Char) :
    wordsBy isBlankChar kept (word ++ rest) = wordsBy isBlankChar (word.reverse ++ kept) rest := by
  induction word generalizing kept with
  | nil => rfl
  | cons c word ih =>
      obtain ⟨first, solid⟩ := solid_cons_iff.mp solid
      rw [List.cons_append, wordsBy, if_neg (by rw [first]; exact Bool.false_ne_true), ih solid,
        List.reverse_cons, List.append_assoc, List.singleton_append]

/-- Blanks in front of the words do not count. -/
theorem words_blanks_append (blank : Blanks gap) (cs : List Char) :
    words (gap ++ cs) = words cs := by
  induction gap with
  | nil => rfl
  | cons c gap ih =>
      obtain ⟨first, blank⟩ := blanks_cons_iff.mp blank
      rw [List.cons_append, words, wordsBy, if_pos first]
      exact ih blank

/-- A word ends at a blank. -/
theorem words_cons_of_isWord (isWord : IsWord word) (parts : isBlankChar c = true)
    (rest : List Char) : words (word ++ c :: rest) = word :: words rest := by
  have kept : ¬ (word.reverse ++ []).isEmpty = true := by
    simpa using isWord.nonempty
  rw [words, wordsBy_solid_append isWord.solid, wordsBy, if_pos parts, if_neg kept, List.append_nil,
    List.reverse_reverse]
  rfl

/-- A word is the only one. -/
theorem words_of_isWord (isWord : IsWord word) : words word = [word] := by
  have kept : ¬ (word.reverse ++ []).isEmpty = true := by
    simpa using isWord.nonempty
  rw [words, ← List.append_nil word, wordsBy_solid_append isWord.solid, wordsBy, if_neg kept]
  simp

/-- What is parted into words has those. -/
theorem Parted.words_eq (parted : Parted cs ws) : words cs = ws := by
  induction parted with
  | blanks blank =>
      have none := words_blanks_append blank []
      rwa [List.append_nil] at none
  | last blank isWord => rw [words_blanks_append blank, words_of_isWord isWord]
  | more blank isWord parts _ ih =>
      rw [words_blanks_append blank, words_cons_of_isWord isWord parts, ih]

/-- A blank in front does not change the words. -/
theorem Parted.blank_cons (blank : isBlankChar c = true) (parted : Parted cs ws) :
    Parted (c :: cs) ws := by
  cases parted with
  | blanks gap => exact .blanks (blanks_cons_iff.mpr ⟨blank, gap⟩)
  | last gap isWord => exact .last (blanks_cons_iff.mpr ⟨blank, gap⟩) isWord
  | more gap isWord parts parted =>
      exact .more (blanks_cons_iff.mpr ⟨blank, gap⟩) isWord parts parted

/-- Blanks in front do not change the words. -/
theorem Parted.blanks_append (blank : Blanks gap) (parted : Parted cs ws) :
    Parted (gap ++ cs) ws := by
  induction gap with
  | nil => exact parted
  | cons c gap ih =>
      obtain ⟨first, blank⟩ := blanks_cons_iff.mp blank
      exact (ih blank).blank_cons first

/-- What has been kept of a word goes on with the text. -/
theorem parted_wordsBy (kept cs : List Char) (solid : Solid kept.reverse) :
    Parted (kept.reverse ++ cs) (wordsBy isBlankChar kept cs) := by
  induction cs generalizing kept with
  | nil =>
      cases kept with
      | nil => exact .blanks blanks_nil
      | cons d kept =>
          rw [List.append_nil]
          exact @Parted.last [] _ blanks_nil ⟨solid, by simp⟩
  | cons c cs ih =>
      rw [wordsBy]
      by_cases blank : isBlankChar c = true
      · rw [if_pos blank]
        have rest := ih [] (fun _ member => (List.not_mem_nil member).elim)
        cases kept with
        | nil => exact rest.blank_cons blank
        | cons d kept => exact @Parted.more [] _ _ _ _ blanks_nil ⟨solid, by simp⟩ blank rest
      · rw [if_neg blank]
        have longer : Solid (c :: kept).reverse := by
          intro d member
          rw [List.reverse_cons, List.mem_append, List.mem_singleton] at member
          rcases member with before | rfl
          · exact solid d before
          · exact Bool.eq_false_iff.mpr blank
        have rest := ih (c :: kept) longer
        rwa [List.reverse_cons, List.append_assoc, List.singleton_append] at rest

/-- **The words of a text are what is parted by blanks in it.** -/
theorem words_eq_iff : words cs = ws ↔ Parted cs ws := by
  refine ⟨fun same => ?_, Parted.words_eq⟩
  rw [← same]
  exact parted_wordsBy [] cs (fun _ member => (List.not_mem_nil member).elim)

end QueryRewriting.Text
