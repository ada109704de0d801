import QueryRewriting.Proofs.Json.Canonical

/-! # Fields that are set one after the other

Of two values set under one key the later stays, and under two keys the order of setting does not
matter. So fields that are extended twice by the same fields are as if they were extended once.
-/

namespace QueryRewriting.Json.Fields

variable {fields added : Fields} {key other : String}

/-! ## Two fields -/

/-- The later value stays. -/
theorem set_set (fields : Fields) (key : String) (first second : Json) :
    (fields.set key first).set key second = fields.set key second := by
  induction fields with
  | nil => simp [set]
  | cons entry rest ih =>
      obtain ⟨k, v⟩ := entry
      simp only [set]
      split_ifs with before same
      · simp [set]
      · simp [set]
      · rw [set, if_neg before, if_neg same, ih]

/-- The smaller key may be set first or last: it comes to stand in front of the larger one. -/
theorem set_comm_of_lt (smaller : key < other) (fields : Fields) (first second : Json) :
    (fields.set key first).set other second = (fields.set other second).set key first := by
  have above : ¬ other < key := String.lt_asymm smaller
  have different : other ≠ key := fun same => String.lt_irrefl key (same ▸ smaller)
  induction fields with
  | nil => simp only [set, if_neg above, if_neg different, if_pos smaller]
  | cons entry rest ih =>
      obtain ⟨k, v⟩ := entry
      -- where the larger key goes comes first: the smaller one never goes further than that
      by_cases before : other < k
      · have front : key < k := String.lt_trans smaller before
        simp only [set, if_pos before, if_pos front, if_neg above, if_neg different, if_pos smaller]
      by_cases same : other = k
      · subst same
        simp only [set, if_neg above, if_neg different, if_pos smaller, if_neg before, if_true]
      by_cases front : key < k
      · simp only [set, if_neg before, if_neg same, if_pos front, if_neg above, if_neg different]
      by_cases here : key = k
      · simp only [set, if_neg before, if_neg same, if_neg front, if_pos here, if_neg above,
          if_neg different]
      · simp only [set, if_neg before, if_neg same, if_neg front, if_neg here, ih]

/-- **Values under two keys can be set in either order.** -/
theorem set_comm (different : key ≠ other) (fields : Fields) (first second : Json) :
    (fields.set key first).set other second = (fields.set other second).set key first := by
  by_cases smaller : key < other
  · exact set_comm_of_lt smaller fields first second
  · have larger : other < key := Std.lt_of_le_of_ne (String.not_lt.mp smaller) different.symm
    exact (set_comm_of_lt larger fields second first).symm

/-! ## Many fields -/

theorem extend_cons (fields : Fields) (key : String) (value : Json) (rest : Fields) :
    fields.extend ((key, value) :: rest) = (fields.set key value).extend rest := rfl

/-- Fields that come after all others are put behind them. -/
theorem extend_of_increasing (increasing : (fields ++ added).Increasing) :
    fields.extend added = fields ++ added := by
  induction added generalizing fields with
  | nil => rw [List.append_nil]; rfl
  | cons entry rest ih =>
      obtain ⟨key, value⟩ := entry
      have above : ∀ before ∈ fields, before.1 < key := fun before member =>
        (List.pairwise_append.mp increasing).2.2 before member (key, value) List.mem_cons_self
      have step : fields ++ [(key, value)] ++ rest = fields ++ (key, value) :: rest :=
        List.append_cons .. ▸ rfl
      rw [extend_cons, set_of_forall_lt above value, ← step]
      exact ih (step ▸ increasing)

theorem extend_nil (increasing : fields.Increasing) : extend [] fields = fields :=
  extend_of_increasing increasing

/-- **What is added goes before what was there.** -/
theorem get?_extend (increasing : added.Increasing) (fields : Fields) (key : String) :
    (fields.extend added).get? key = (added.get? key).or (fields.get? key) := by
  induction added generalizing fields with
  | nil => rfl
  | cons entry rest ih =>
      obtain ⟨k, v⟩ := entry
      obtain ⟨above, rest_increasing⟩ := List.pairwise_cons.mp increasing
      rw [extend_cons, ih rest_increasing]
      by_cases same : key = k
      · subst same
        have once : Fields.get? rest key = none := by
          cases found : Fields.get? rest key with
          | none => rfl
          | some value =>
              exact absurd (above (key, value) (mem_of_get? found)) (String.lt_irrefl key)
        rw [once, get?_set, get?, List.lookup_cons, beq_self_eq_true]
        rfl
      · rw [get?_set_of_ne same, get?, get?, get?, List.lookup_cons, beq_false_of_ne same]

/-- What stands under a key that is added does not matter. -/
theorem extend_set_of_mem (member : key ∈ added.map (·.1)) (fields : Fields) (value : Json) :
    (fields.set key value).extend added = fields.extend added := by
  induction added generalizing fields with
  | nil => cases member
  | cons entry rest ih =>
      obtain ⟨k, v⟩ := entry
      rw [extend_cons, extend_cons]
      by_cases same : key = k
      · rw [same, set_set]
      · have later : key ∈ rest.map (·.1) := (List.mem_cons.mp member).resolve_left same
        rw [set_comm same, ih later]

/-- What is set twice is as it was set last. -/
theorem extend_extend_of_subset {before : Fields}
    (subset : before.map (·.1) ⊆ added.map (·.1)) (fields : Fields) :
    (fields.extend before).extend added = fields.extend added := by
  induction before generalizing fields with
  | nil => rfl
  | cons entry rest ih =>
      obtain ⟨k, v⟩ := entry
      obtain ⟨member, rest_subset⟩ := List.cons_subset.mp subset
      rw [extend_cons, ih rest_subset, extend_set_of_mem member]

/-- **Adding the same fields again changes nothing.** -/
theorem extend_extend (fields added : Fields) :
    (fields.extend added).extend added = fields.extend added :=
  extend_extend_of_subset (List.Subset.refl _) fields

end QueryRewriting.Json.Fields
