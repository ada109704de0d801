import Mathlib.Tactic.SplitIfs
import QueryRewriting.Proofs.Json.Canonical
import QueryRewriting.Proofs.Json.Numbers

/-! # JSON text reads back

What is printed is read again as the same value, as long as no more lists and objects are open at
once than the reader allows and each number's own text reads back. The reader stops where the value
ends, so this is shown of a value in front of any text that does not go on with a number.
-/

namespace QueryRewriting.Json

namespace Reader

variable {rest : List Char}

/-! ## Texts -/

/-- A character that stands for itself is read as itself. -/
theorem textBody?_plain {c : Char} (unquoted : c ≠ '"') (unescaped : c ≠ '\\')
    (visible : ¬ c.toNat < 0x20) (rest : List Char) :
    textBody? (c :: rest) = (textBody? rest).map fun (cs, left) => (c :: cs, left) := by
  rw [textBody?]
  · simp [unescaped, visible]
  · exact unquoted
  · intro _ _ _ _ _ _ _ _ _ same
    exact absurd same unescaped
  · intro _ _ _ _ _ same
    exact absurd same unescaped
  · intro _ _ same
    exact absurd same unescaped

/-- An escape that is no code unit cannot be read. -/
theorem textBody?_unit_none {a b c d : Char} (broken : unit? a b c d = none) (rest : List Char) :
    textBody? ('\\' :: 'u' :: a :: b :: c :: d :: rest) = none := by
  by_cases again : ∃ e f g h after, rest = '\\' :: 'u' :: e :: f :: g :: h :: after
  · obtain ⟨e, f, g, h, after, rfl⟩ := again
    rw [textBody?, broken]
  · rw [textBody?, broken]
    intro e f g h after same
    exact again ⟨e, f, g, h, after, same⟩

/-- A code unit that is no half of a pair stands for its character, whatever follows. -/
theorem textBody?_unit {a b c d : Char} {n : Nat} (unit : unit? a b c d = some n)
    (high : isHighSurrogate n = false) (low : isLowSurrogate n = false) (rest : List Char) :
    textBody? ('\\' :: 'u' :: a :: b :: c :: d :: rest) =
      (textBody? rest).map fun (cs, left) => (Char.ofNat n :: cs, left) := by
  by_cases again : ∃ e f g h after, rest = '\\' :: 'u' :: e :: f :: g :: h :: after
  · obtain ⟨e, f, g, h, after, rfl⟩ := again
    rw [textBody?, unit]
    cases next : unit? e f g h with
    | none => rw [textBody?_unit_none next, Option.map_none]
    | some m => simp [high, low]
  · rw [textBody?, unit]
    · simp [high, low]
    · intro e f g h after same
      exact again ⟨e, f, g, h, after, same⟩

/-- The controls without a short escape are written by two digits. -/
theorem unit?_hexFour : ∀ n < 32,
    hexFour n = ['0', '0', Nat.digitChar (n / 16), Nat.digitChar (n % 16)] ∧
      unit? '0' '0' (Nat.digitChar (n / 16)) (Nat.digitChar (n % 16)) = some n := by
  decide

/-- Every character is read as it was written. -/
theorem textBody?_escapeChar (c : Char) (rest : List Char) :
    textBody? (escapeChar c ++ rest) =
      (textBody? rest).map fun (cs, left) => (c :: cs, left) := by
  unfold escapeChar
  split_ifs with quote backslash backspace feed newline return' tab control
  · subst quote
    simp [textBody?, escaped?]
  · subst backslash
    simp [textBody?, escaped?]
  · subst backspace
    simp [textBody?, escaped?]
  · subst feed
    simp [textBody?, escaped?]
  · subst newline
    simp [textBody?, escaped?]
  · subst return'
    simp [textBody?, escaped?]
  · subst tab
    simp [textBody?, escaped?]
  · obtain ⟨written, unit⟩ := unit?_hexFour c.toNat control
    have high : isHighSurrogate c.toNat = false := by
      simp only [isHighSurrogate, Bool.and_eq_false_iff, decide_eq_false_iff_not]
      omega
    have low : isLowSurrogate c.toNat = false := by
      simp only [isLowSurrogate, Bool.and_eq_false_iff, decide_eq_false_iff_not]
      omega
    have read := textBody?_unit unit high low rest
    rw [Char.ofNat_toNat] at read
    rw [written]
    exact read
  · exact textBody?_plain quote backslash control rest

/-- Every text is read as it was written. -/
theorem textBody?_escaped (cs rest : List Char) :
    textBody? (cs.flatMap escapeChar ++ '"' :: rest) = some (cs, rest) := by
  induction cs with
  | nil => rw [List.flatMap_nil, List.nil_append, textBody?]
  | cons c cs ih =>
      rw [List.flatMap_cons, List.append_assoc, textBody?_escapeChar, ih]
      rfl

/-! ## Blanks -/

theorem skipBlank_cons {c : Char} (visible : isBlank c = false) (cs : List Char) :
    skipBlank (c :: cs) = c :: cs := by
  simp [skipBlank, visible]

/-- A digit is not blank. -/
theorem isBlank_of_digit {c : Char} (digit : c.isDigit = true) : isBlank c = false := by
  simp only [isBlank, Bool.or_eq_false_iff, beq_eq_false_iff_ne]
  refine ⟨⟨⟨?_, ?_⟩, ?_⟩, ?_⟩ <;>
    · rintro rfl
      cases digit

/-- Where blanks were skipped there are none. -/
theorem skipBlank_skipBlank (cs : List Char) : skipBlank (skipBlank cs) = skipBlank cs := by
  induction cs with
  | nil => rfl
  | cons c cs ih =>
      by_cases blank : isBlank c = true
      · simpa [skipBlank, blank] using ih
      · simp [skipBlank, blank]

/-- What follows does not change where the blanks in front end. -/
theorem skipBlank_append {c : Char} {cs left : List Char} (front : skipBlank cs = c :: left)
    (rest : List Char) : skipBlank (cs ++ rest) = c :: (left ++ rest) := by
  simp only [skipBlank] at front ⊢
  rw [List.dropWhile_append, front]
  rfl

/-- Behind nothing but blanks the blanks go on. -/
theorem skipBlank_append_of_spent {left : List Char} (spent : skipBlank left = [])
    (rest : List Char) : skipBlank (left ++ rest) = skipBlank rest := by
  simp only [skipBlank] at spent ⊢
  rw [List.dropWhile_append, spent]
  rfl

/-- Blanks in front of a value do not count. -/
theorem value?_skipBlank (fuel depth : Nat) (cs : List Char) :
    value? fuel depth (skipBlank cs) = value? fuel depth cs := by
  cases fuel with
  | zero => simp only [value?]
  | succ fuel => simp only [value?, skipBlank_skipBlank]

/-- Blanks in front of the items do not count. -/
theorem items?_skipBlank (fuel depth : Nat) (cs : List Char) :
    items? fuel depth (skipBlank cs) = items? fuel depth cs := by
  cases fuel with
  | zero => simp only [items?]
  | succ fuel => simp only [items?, value?_skipBlank]

/-- Blanks in front of the fields do not count. -/
theorem fields?_skipBlank (fuel depth : Nat) (cs : List Char) :
    fields? fuel depth (skipBlank cs) = fields? fuel depth cs := by
  cases fuel with
  | zero => simp only [fields?]
  | succ fuel => simp only [fields?, skipBlank_skipBlank]

/-! ## Numbers -/

/-- A number begins with a sign or with a digit. -/
theorem number?_of_value? {fuel depth : Nat} {cs left : List Char} {n : Number}
    (reads : value? fuel depth cs = some (.number n, left)) :
    (∃ digits, skipBlank cs = '-' :: digits ∧ number? true digits = some (n, left)) ∨
      ∃ c digits, skipBlank cs = c :: digits ∧ c.isDigit = true ∧
        number? false (c :: digits) = some (n, left) := by
  cases fuel with
  | zero =>
      rw [value?] at reads
      cases reads
  | succ fuel =>
      rw [value?] at reads
      split at reads
      case h_5 digits front =>
        obtain ⟨⟨value, after⟩, read, same⟩ := Option.map_eq_some_iff.mp reads
        cases same
        exact Or.inl ⟨digits, front, read⟩
      case h_8 c digits _ _ _ _ _ _ _ front =>
        split at reads
        · rename_i digit
          obtain ⟨⟨value, after⟩, read, same⟩ := Option.map_eq_some_iff.mp reads
          cases same
          exact Or.inr ⟨c, digits, front, digit, read⟩
        · cases reads
      case h_9 => cases reads
      -- Every other first character leads to a value of another shape.
      all_goals
        repeat' split at reads
        all_goals simp at reads

/-- What begins with a minus sign is a number. -/
theorem value?_of_minus {cs digits left : List Char} {n : Number}
    (front : skipBlank cs = '-' :: digits)
    (read : number? true digits = some (n, left)) (fuel depth : Nat) :
    value? (fuel + 1) depth cs = some (.number n, left) := by
  simp only [value?, front, read, Option.map_some]

/-- What begins with a digit is a number. -/
theorem value?_of_digit {c : Char} {cs digits left : List Char} {n : Number}
    (front : skipBlank cs = c :: digits) (digit : c.isDigit = true)
    (read : number? false (c :: digits) = some (n, left)) (fuel depth : Nat) :
    value? (fuel + 1) depth cs = some (.number n, left) := by
  rw [value?, front]
  split
  case h_8 same =>
    cases same
    rw [if_pos digit, read]
    rfl
  -- No digit is the first character of a value of another shape.
  all_goals
    rename_i same
    cases same <;> cases digit

/-- A number that is read in front of a text is read in front of every longer one. -/
theorem value?_number_append {fuel depth : Nat} {cs left : List Char} {n : Number}
    (reads : value? fuel depth cs = some (.number n, left)) (ends : EndsNumber rest)
    (more limit : Nat) : value? (more + 1) limit (cs ++ rest) = some (.number n, left ++ rest) := by
  rcases number?_of_value? reads with ⟨digits, front, read⟩ | ⟨c, digits, front, digit, read⟩
  · exact value?_of_minus (skipBlank_append front rest) (number?_append ends read) more limit
  · exact value?_of_digit (skipBlank_append front rest) digit (number?_append ends read) more limit

end Reader

/-! ## Shapes of values -/

mutual

/-- How many lists and objects are open at once within a value. -/
def depth : Json → Nat
  | .list items => depthItems items + 1
  | .object fields => depthFields fields + 1
  | _ => 0

/-- How deep items nest. -/
def depthItems : List Json → Nat
  | [] => 0
  | item :: rest => max (depth item) (depthItems rest)

/-- How deep the values of fields nest. -/
def depthFields : List (String × Json) → Nat
  | [] => 0
  | (_, value) :: rest => max (depth value) (depthFields rest)

end

mutual

/-- The numbers within a value. -/
def numbers : Json → List Number
  | .number n => [n]
  | .list items => numbersItems items
  | .object fields => numbersFields fields
  | _ => []

/-- The numbers in some items. -/
def numbersItems : List Json → List Number
  | [] => []
  | item :: rest => numbers item ++ numbersItems rest

/-- The numbers in the values of some fields. -/
def numbersFields : List (String × Json) → List Number
  | [] => []
  | (_, value) :: rest => numbers value ++ numbersFields rest

end

end QueryRewriting.Json

namespace QueryRewriting

/-- The text of a number reads back to the same number. -/
def Number.Survives (n : Number) : Prop := Json.parse? (Json.number n).print = some (.number n)

namespace Json.Reader

open Json

/-- A number that survives is read as it was written. -/
theorem value?_of_survives {n : Number} {rest : List Char} (survives : n.Survives)
    (ends : EndsNumber rest) (fuel depth : Nat) :
    ∃ left, value? (fuel + 1) depth (chars (.number n) ++ rest) = some (.number n, left) ∧
      skipBlank left = skipBlank rest := by
  obtain ⟨value, read, same⟩ := Option.map_eq_some_iff.mp survives
  have plain : value = .number n := by
    cases value <;> simp [canonical] at same
    rw [same]
  subst plain
  unfold read? at read
  split at read
  · rename_i value left front
    split at read
    · rename_i spent
      cases read
      simp only [front?, print, String.toList_ofList] at front
      refine ⟨left ++ rest, value?_number_append front ends fuel depth, ?_⟩
      exact skipBlank_append_of_spent (List.isEmpty_iff.mp spent) rest
    · cases read
  · cases read

/-! ## Values -/

/-- A comma ends a number, and so does what closes a list or an object. -/
theorem endsNumber_cons {c : Char} (other : c = ',' ∨ c = ']' ∨ c = '\x7d') (rest : List Char) :
    EndsNumber (c :: rest) := by
  intro d first
  cases first
  rcases other with rfl | rfl | rfl <;> decide

/-- No value begins with the end of a list. -/
theorem value?_of_bracket {cs left : List Char} (front : skipBlank cs = ']' :: left)
    (fuel depth : Nat) : value? fuel depth cs = none := by
  cases fuel with
  | zero => rw [value?]
  | succ fuel =>
      simp only [value?, front]
      rfl

/-- Behind the text of a key and its colon stands the value. -/
theorem fields?_key (key : String) (fuel limit : Nat) (cs : List Char) :
    fields? (fuel + 1) limit (textChars key ++ ':' :: cs) =
      (value? fuel limit cs).bind fun (value, rest) =>
        match skipBlank rest with
        | '\x7d' :: rest => some ([(key, value)], rest)
        | ',' :: rest => (fields? fuel limit rest).bind fun (fields, rest) =>
          some ((key, value) :: fields, rest)
        | _ => none := by
  have quote : skipBlank (textChars key ++ ':' :: cs) =
      '"' :: (key.toList.flatMap escapeChar ++ '"' :: ':' :: cs) := by
    rw [textChars, List.cons_append, List.cons_append, skipBlank_cons (by decide),
      List.append_assoc, List.singleton_append]
  rw [fields?, quote]
  simp only [textBody?_escaped, Option.bind_eq_bind, Option.bind_some,
    skipBlank_cons (show isBlank ':' = false from rfl), String.ofList_toList]
  rfl

mutual

/-- A printed value is read off the front of every text that does not go on with a number. -/
theorem value?_chars (v : Json) (fuel : Nat) (rest : List Char) {limit : Nat}
    (fits : v.depth ≤ limit) (survive : ∀ n ∈ v.numbers, n.Survives) (ends : EndsNumber rest)
    (fueled : 2 * (chars v).length ≤ fuel + 1) :
    ∃ left, value? (fuel + 1) limit (chars v ++ rest) = some (v, left) ∧
      skipBlank left = skipBlank rest := by
  match v with
  | .null => exact ⟨rest, rfl, rfl⟩
  | .bool true => exact ⟨rest, rfl, rfl⟩
  | .bool false => exact ⟨rest, rfl, rfl⟩
  | .number n => exact value?_of_survives (survive n List.mem_cons_self) ends fuel limit
  | .text t =>
      refine ⟨rest, ?_, rfl⟩
      simp only [chars, textChars, List.cons_append, List.append_assoc, List.nil_append, value?,
        skipBlank_cons (show isBlank '"' = false from rfl), textBody?_escaped, Option.map_some,
        String.ofList_toList]
  | .list items =>
      obtain ⟨limit, rfl⟩ : ∃ below, limit = below + 1 := Nat.exists_eq_add_one.mpr (by
        rw [depth] at fits
        omega)
      refine ⟨rest, ?_, rfl⟩
      simp only [chars, List.cons_append, value?,
        skipBlank_cons (show isBlank '[' = false from rfl)]
      by_cases empty : items = []
      · subst empty
        rfl
      · have length := fueled
        rw [chars, List.length_cons] at length
        obtain ⟨fuel, rfl⟩ : ∃ less, fuel = less + 1 := Nat.exists_eq_add_one.mpr (by omega)
        have read := items?_itemChars items fuel rest empty (Nat.le_of_succ_le_succ fits) survive
          (show 2 * (itemChars items).length ≤ fuel + 1 by omega)
        split
        · rename_i left front
          -- A list that closes at once has no first item to read.
          rw [items?, value?_of_bracket front] at read
          cases read
        · rw [items?_skipBlank, read]
          rfl
  | .object fields =>
      obtain ⟨limit, rfl⟩ : ∃ below, limit = below + 1 := Nat.exists_eq_add_one.mpr (by
        rw [depth] at fits
        omega)
      refine ⟨rest, ?_, rfl⟩
      simp only [chars, List.cons_append, value?,
        skipBlank_cons (show isBlank '\x7b' = false from rfl)]
      by_cases empty : fields = []
      · subst empty
        rfl
      · have length := fueled
        rw [chars, List.length_cons] at length
        obtain ⟨fuel, rfl⟩ : ∃ less, fuel = less + 1 := Nat.exists_eq_add_one.mpr (by omega)
        have read := fields?_fieldChars fields fuel rest empty (Nat.le_of_succ_le_succ fits) survive
          (show 2 * (fieldChars fields).length ≤ fuel + 1 by omega)
        split
        · rename_i left front
          rw [fields?, front] at read
          cases read
        · rw [fields?_skipBlank, read]
          rfl

/-- Items are read as they were written. -/
theorem items?_itemChars (items : List Json) (fuel : Nat) (rest : List Char) {limit : Nat}
    (nonempty : items ≠ []) (fits : depthItems items ≤ limit)
    (survive : ∀ n ∈ numbersItems items, n.Survives)
    (fueled : 2 * (itemChars items).length ≤ fuel + 1) :
    items? (fuel + 1) limit (itemChars items ++ rest) = some (items, rest) := by
  match items with
  | [] => exact absurd rfl nonempty
  | [item] =>
      rw [itemChars, List.length_append, List.length_singleton] at fueled
      obtain ⟨fuel, rfl⟩ : ∃ less, fuel = less + 1 := Nat.exists_eq_add_one.mpr (by omega)
      obtain ⟨left, read, blank⟩ := value?_chars item fuel (']' :: rest)
        (Nat.le_trans (Nat.le_max_left _ _) fits)
        (fun n member => survive n (List.mem_append_left _ member))
        (endsNumber_cons (Or.inr (Or.inl rfl)) rest) (by omega)
      rw [skipBlank_cons (by decide)] at blank
      rw [itemChars, List.append_assoc, List.singleton_append, items?, read]
      simp only [Option.bind_eq_bind, Option.bind_some, blank]
      rfl
  | item :: next :: items =>
      rw [itemChars, List.length_append, List.length_cons] at fueled
      · obtain ⟨fuel, rfl⟩ : ∃ less, fuel = less + 1 := Nat.exists_eq_add_one.mpr (by omega)
        obtain ⟨left, read, blank⟩ := value?_chars item fuel
          (',' :: (itemChars (next :: items) ++ rest))
          (Nat.le_trans (Nat.le_max_left _ _) fits)
          (fun n member => survive n (List.mem_append_left _ member))
          (endsNumber_cons (Or.inl rfl) _) (by omega)
        have others := items?_itemChars (next :: items) fuel rest
          (List.cons_ne_nil _ _) (Nat.le_trans (Nat.le_max_right _ _) fits)
          (fun n member => survive n (List.mem_append_right _ member)) (by omega)
        rw [skipBlank_cons (by decide)] at blank
        rw [itemChars, List.append_assoc, List.cons_append, items?, read]
        · simp only [Option.bind_eq_bind, Option.bind_some, blank, others]
          rfl
        · exact List.cons_ne_nil _ _
      · exact List.cons_ne_nil _ _

/-- Fields are read as they were written. -/
theorem fields?_fieldChars (fields : List (String × Json)) (fuel : Nat) (rest : List Char)
    {limit : Nat} (nonempty : fields ≠ []) (fits : depthFields fields ≤ limit)
    (survive : ∀ n ∈ numbersFields fields, n.Survives)
    (fueled : 2 * (fieldChars fields).length ≤ fuel + 1) :
    fields? (fuel + 1) limit (fieldChars fields ++ rest) = some (fields, rest) := by
  match fields with
  | [] => exact absurd rfl nonempty
  | [(key, value)] =>
      simp only [fieldChars, List.length_append, List.length_cons] at fueled
      obtain ⟨fuel, rfl⟩ : ∃ less, fuel = less + 1 := Nat.exists_eq_add_one.mpr (by omega)
      obtain ⟨left, read, blank⟩ := value?_chars value fuel ('\x7d' :: rest)
        (Nat.le_trans (Nat.le_max_left _ _) fits)
        (fun n member => survive n (List.mem_append_left _ member))
        (endsNumber_cons (Or.inr (Or.inr rfl)) rest) (by omega)
      rw [skipBlank_cons (by decide)] at blank
      simp only [fieldChars, List.append_assoc, List.cons_append, List.nil_append]
      rw [fields?_key, read]
      simp only [Option.bind_some, blank]
  | (key, value) :: next :: fields =>
      simp only [fieldChars, List.length_append, List.length_cons] at fueled
      obtain ⟨fuel, rfl⟩ : ∃ less, fuel = less + 1 := Nat.exists_eq_add_one.mpr (by omega)
      obtain ⟨left, read, blank⟩ := value?_chars value fuel
        (',' :: (fieldChars (next :: fields) ++ rest))
        (Nat.le_trans (Nat.le_max_left _ _) fits)
        (fun n member => survive n (List.mem_append_left _ member))
        (endsNumber_cons (Or.inl rfl) _) (by omega)
      have others := fields?_fieldChars (next :: fields) fuel rest
        (List.cons_ne_nil _ _) (Nat.le_trans (Nat.le_max_right _ _) fits)
        (fun n member => survive n (List.mem_append_right _ member)) (by omega)
      rw [skipBlank_cons (by decide)] at blank
      simp only [fieldChars, List.append_assoc, List.cons_append]
      rw [fields?_key, read]
      simp only [Option.bind_some, blank, others]

end

/-! ## Limits on nesting

A higher limit changes no value that was read under a lower one.
-/

mutual

/-- What is read within a limit is read within every wider one. -/
theorem value?_mono (fuel : Nat) {depth limit : Nat} (deeper : depth ≤ limit) {cs : List Char}
    {result : Json × List Char} (reads : value? fuel depth cs = some result) :
    value? fuel limit cs = some result := by
  match fuel with
  | 0 => cases reads
  | fuel + 1 =>
      rw [value?] at reads ⊢
      split at reads
      case h_6 =>
        cases depth with
        | zero => cases reads
        | succ depth =>
            obtain ⟨limit, rfl⟩ : ∃ less, limit = less + 1 := Nat.exists_eq_add_one.mpr (by omega)
            simp only at reads ⊢
            split at reads
            · exact reads
            · obtain ⟨items, read, same⟩ := Option.map_eq_some_iff.mp reads
              rw [items?_mono fuel (Nat.le_of_succ_le_succ deeper) read, ← same]
              rfl
      case h_7 =>
        cases depth with
        | zero => cases reads
        | succ depth =>
            obtain ⟨limit, rfl⟩ : ∃ less, limit = less + 1 := Nat.exists_eq_add_one.mpr (by omega)
            simp only at reads ⊢
            split at reads
            · exact reads
            · obtain ⟨fields, read, same⟩ := Option.map_eq_some_iff.mp reads
              rw [fields?_mono fuel (Nat.le_of_succ_le_succ deeper) read, ← same]
              rfl
      -- No other value opens a list or an object.
      all_goals exact reads

theorem items?_mono (fuel : Nat) {depth limit : Nat} (deeper : depth ≤ limit) {cs : List Char}
    {result : List Json × List Char} (reads : items? fuel depth cs = some result) :
    items? fuel limit cs = some result := by
  match fuel with
  | 0 => cases reads
  | fuel + 1 =>
      rw [items?] at reads ⊢
      obtain ⟨⟨item, rest⟩, read, reads⟩ := Option.bind_eq_some_iff.mp reads
      rw [value?_mono fuel deeper read]
      simp only [Option.bind_eq_bind, Option.bind_some] at reads ⊢
      split at reads
      · exact reads
      · obtain ⟨others, read, same⟩ := Option.bind_eq_some_iff.mp reads
        rw [items?_mono fuel deeper read, Option.bind_some]
        exact same
      · cases reads

theorem fields?_mono (fuel : Nat) {depth limit : Nat} (deeper : depth ≤ limit) {cs : List Char}
    {result : List (String × Json) × List Char} (reads : fields? fuel depth cs = some result) :
    fields? fuel limit cs = some result := by
  match fuel with
  | 0 => cases reads
  | fuel + 1 =>
      rw [fields?] at reads ⊢
      split at reads
      · obtain ⟨⟨key, rest⟩, keyed, reads⟩ := Option.bind_eq_some_iff.mp reads
        rw [keyed]
        simp only [Option.bind_eq_bind, Option.bind_some] at reads ⊢
        split at reads
        · obtain ⟨⟨value, rest⟩, read, reads⟩ := Option.bind_eq_some_iff.mp reads
          rw [value?_mono fuel deeper read]
          simp only [Option.bind_some] at reads ⊢
          split at reads
          · exact reads
          · obtain ⟨others, read, same⟩ := Option.bind_eq_some_iff.mp reads
            rw [fields?_mono fuel deeper read, Option.bind_some]
            exact same
          · cases reads
        · cases reads
      · cases reads

end

end Json.Reader

/-! ## Whole texts -/

/-- What the reader makes of a printed value is what is read off the text. -/
theorem Json.parse?_print_of_value? {v : Json} (left : List Char)
    (read : Reader.value? (2 * (chars v).length + 2) nestingLimit (chars v) = some (v, left))
    (spent : Reader.skipBlank left = []) (ordered : v.Ordered) :
    parse? v.print = some v := by
  have front : front? nestingLimit v.print = some (v, left) := by
    rw [front?, print, String.toList_ofList]
    exact read
  have done : isSpent left = true := by
    rw [isSpent, spent]
    rfl
  rw [parse?, read?, front]
  simp only [done, if_true, Option.map_some, show v.canonical = v from ordered]

/-- **A printed value reads back as itself**, if its objects list their fields in order, it nests no
deeper than a text may, and its numbers survive. -/
theorem Json.parse?_print {v : Json} (ordered : v.Ordered) (fits : v.depth ≤ nestingLimit)
    (survive : ∀ n ∈ v.numbers, n.Survives) : parse? v.print = some v := by
  obtain ⟨left, read, blank⟩ := Reader.value?_chars v (2 * (chars v).length + 1) [] fits
    survive Reader.endsNumber_nil (by omega)
  rw [List.append_nil] at read
  exact parse?_print_of_value? left read blank ordered

/-- A printed value that is read at all is read as itself: only the limit on nesting stands in the
way. -/
theorem Json.eq_of_parse?_print {v w : Json} (ordered : v.Ordered)
    (survive : ∀ n ∈ v.numbers, n.Survives) (reads : parse? v.print = some w) : w = v := by
  obtain ⟨left, whole, _⟩ := Reader.value?_chars v (2 * (chars v).length + 1) []
    (Nat.le_max_left v.depth nestingLimit) survive Reader.endsNumber_nil (by omega)
  rw [List.append_nil] at whole
  obtain ⟨value, read, same⟩ := Option.map_eq_some_iff.mp reads
  unfold read? at read
  split at read
  · rename_i found rest front
    split at read
    · cases read
      rw [front?, print, String.toList_ofList] at front
      have deeper := Reader.value?_mono _ (Nat.le_max_right v.depth nestingLimit) front
      cases whole.symm.trans deeper
      exact same.symm.trans ordered
    · cases read
  · cases read

namespace Number

/-- A number that begins with a digit survives if it is read as itself. -/
theorem survives_of_digit {n : Number} (c : Char) (digits : List Char)
    (written : Json.chars (.number n) = c :: digits) (digit : c.isDigit = true)
    (read : Json.Reader.number? false (c :: digits) = some (n, [])) : n.Survives := by
  refine Json.parse?_print_of_value? [] ?_ rfl rfl
  rw [written]
  have visible := Json.Reader.skipBlank_cons (Json.Reader.isBlank_of_digit digit) digits
  exact Json.Reader.value?_of_digit visible digit read _ _

/-- So does one that begins with a minus sign. -/
theorem survives_of_minus {n : Number} (digits : List Char)
    (written : Json.chars (.number n) = '-' :: digits)
    (read : Json.Reader.number? true digits = some (n, [])) : n.Survives := by
  refine Json.parse?_print_of_value? [] ?_ rfl rfl
  rw [written]
  exact Json.Reader.value?_of_minus (Json.Reader.skipBlank_cons (by decide) digits) read _ _

/-- Whole numbers of 64 bits, signed or not, survive. -/
theorem survives_whole {n : Int} (low : -9223372036854775808 ≤ n)
    (high : n ≤ 18446744073709551615) : (Number.whole n).Survives := by
  cases n with
  | ofNat m =>
      have written : Json.chars (.number (.whole (Int.ofNat m))) = Nat.toDigits 10 m :=
        String.toList_ofList
      have read := Json.Reader.number?_ofNat (n := m) (Int.ofNat_le.mp high)
      obtain ⟨c, cs, digits⟩ := List.exists_cons_of_ne_nil (Nat.toDigits_ne_nil (n := m) (b := 10))
      have digit : c.isDigit = true := by
        refine Nat.isDigit_of_mem_toDigits (b := 10) (n := m) (by decide) (by decide) ?_
        rw [digits]
        exact List.mem_cons_self
      rw [digits] at written read
      exact survives_of_digit c cs written digit read
  | negSucc m =>
      have written : Json.chars (.number (.whole (Int.negSucc m))) =
          '-' :: Nat.toDigits 10 (m + 1) := by
        simp only [Json.chars, Json.numberChars, Int.toString_eq_repr, Int.repr,
          String.toList_append, Nat.repr, String.toList_ofList]
        rfl
      exact survives_of_minus _ written (Json.Reader.number?_neg (Nat.succ_pos m) (by omega))

end Number

end QueryRewriting
