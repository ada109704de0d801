import Mathlib.Tactic.SplitIfs
import QueryRewriting.Json.Reader

/-! # Values in canonical order

Objects list their fields in strictly increasing order of their keys. Setting a field keeps that
order, and bringing a value into order leaves an ordered one as it is; so whatever is read off a
text is ordered, and so is every part of an ordered value.
-/

namespace QueryRewriting.Json

namespace Fields

variable {fields : Fields} {key other : String} {value : Json}

/-! ## One field -/

/-- A field that was set has the value. -/
@[simp]
theorem get?_set (fields : Fields) (key : String) (value : Json) :
    (fields.set key value).get? key = some value := by
  induction fields with
  | nil => simp [set, get?]
  | cons entry rest ih =>
      obtain ⟨k, v⟩ := entry
      rw [set]
      split_ifs with before same
      · simp [get?]
      · simp [get?]
      · rw [get?, List.lookup_cons, beq_false_of_ne same]
        exact ih

/-- Setting a field leaves the others. -/
theorem get?_set_of_ne (different : other ≠ key) (fields : Fields) (value : Json) :
    (fields.set key value).get? other = fields.get? other := by
  have miss : (other == key) = false := beq_false_of_ne different
  induction fields with
  | nil => simp [set, get?, different]
  | cons entry rest ih =>
      obtain ⟨k, v⟩ := entry
      rw [set]
      split_ifs with before same
      · simp [get?, List.lookup_cons, miss]
      · subst same
        simp [get?, List.lookup_cons, miss]
      · rw [get?, get?, List.lookup_cons, List.lookup_cons]
        split
        · rfl
        · exact ih

/-- A value that is found under a key stands there. -/
theorem mem_of_get? (found : fields.get? key = some value) : (key, value) ∈ fields := by
  induction fields with
  | nil => cases found
  | cons entry rest ih =>
      obtain ⟨k, v⟩ := entry
      rw [get?, List.lookup_cons] at found
      split at found
      · rename_i same
        cases found
        rw [beq_iff_eq.mp same]
        exact List.mem_cons_self
      · exact List.mem_cons_of_mem _ (ih found)

/-- What is there after a field was set was there before, or is that field. -/
theorem mem_set {entry : String × Json} (member : entry ∈ fields.set key value) :
    entry = (key, value) ∨ entry ∈ fields := by
  induction fields with
  | nil => exact Or.inl (List.mem_singleton.mp member)
  | cons first rest ih =>
      obtain ⟨k, v⟩ := first
      rw [set] at member
      split_ifs at member with before same
      · exact List.mem_cons.mp member
      · rcases List.mem_cons.mp member with new | old
        · exact Or.inl new
        · exact Or.inr (List.mem_cons_of_mem _ old)
      · rcases List.mem_cons.mp member with front | later
        · exact Or.inr (List.mem_cons.mpr (Or.inl front))
        · exact (ih later).imp_right (List.mem_cons_of_mem _)

/-! ## Order -/

/-- The keys strictly increase. -/
def Increasing (fields : Fields) : Prop := fields.Pairwise fun a b => a.1 < b.1

/-- Fields stay in order when one is set. -/
theorem Increasing.set (increasing : fields.Increasing) (key : String) (value : Json) :
    (fields.set key value).Increasing := by
  induction fields with
  | nil => exact List.pairwise_singleton _ _
  | cons first rest ih =>
      obtain ⟨k, v⟩ := first
      obtain ⟨above, rest_increasing⟩ := List.pairwise_cons.mp increasing
      rw [Fields.set]
      split_ifs with before same
      · refine List.pairwise_cons.mpr ⟨?_, increasing⟩
        intro entry member
        rcases List.mem_cons.mp member with rfl | later
        · exact before
        · exact String.lt_trans before (above entry later)
      · subst same
        exact List.pairwise_cons.mpr ⟨above, rest_increasing⟩
      · refine List.pairwise_cons.mpr ⟨?_, ih rest_increasing⟩
        intro entry member
        rcases mem_set member with rfl | old
        · exact Std.lt_of_le_of_ne (String.not_lt.mp before) (Ne.symm same)
        · exact above entry old

/-- A field whose key comes after all others is put behind them. -/
theorem set_of_forall_lt (above : ∀ entry ∈ fields, entry.1 < key) (value : Json) :
    fields.set key value = fields ++ [(key, value)] := by
  induction fields with
  | nil => rfl
  | cons first rest ih =>
      obtain ⟨k, v⟩ := first
      have lower : k < key := above (k, v) List.mem_cons_self
      have different : key ≠ k := by
        rintro rfl
        exact String.lt_irrefl key lower
      rw [set, if_neg (String.lt_asymm lower), if_neg different,
        ih fun entry member => above entry (List.mem_cons_of_mem _ member), List.cons_append]

end Fields

/-! ## Values -/

/-- Every object within the value lists its fields in strictly increasing order of their keys. -/
def Ordered (v : Json) : Prop := v.canonical = v

/-- Fields that are in order, and whose values are, stay as they are. -/
theorem canonicalFields_of_increasing {acc fields : Fields}
    (increasing : (acc ++ fields).Increasing)
    (ordered : ∀ entry ∈ fields, entry.2.Ordered) : canonicalFields acc fields = acc ++ fields := by
  induction fields generalizing acc with
  | nil => rw [canonicalFields, List.append_nil]
  | cons first rest ih =>
      obtain ⟨key, value⟩ := first
      have above : ∀ entry ∈ acc, entry.1 < key := fun entry member =>
        (List.pairwise_append.mp increasing).2.2 entry member (key, value) List.mem_cons_self
      have plain : value.canonical = value := ordered (key, value) List.mem_cons_self
      have step : acc ++ [(key, value)] ++ rest = acc ++ (key, value) :: rest :=
        List.append_cons acc (key, value) rest ▸ rfl
      rw [canonicalFields, plain, Fields.set_of_forall_lt above,
        ih (step ▸ increasing) fun entry member => ordered entry (List.mem_cons_of_mem _ member),
        step]

/-- Items that are in order stay as they are. -/
theorem canonicalItems_of_ordered {items : List Json} (ordered : ∀ item ∈ items, item.Ordered) :
    canonicalItems items = items := by
  induction items with
  | nil => rfl
  | cons item rest ih =>
      rw [canonicalItems, ih fun entry member => ordered entry (List.mem_cons_of_mem _ member)]
      exact congrArg (· :: rest) (ordered item List.mem_cons_self)

mutual

/-- **A value that was brought into order is in order.** -/
theorem ordered_canonical (v : Json) : v.canonical.Ordered := by
  match v with
  | .null | .bool _ | .number _ | .text _ => rfl
  | .list items =>
      exact congrArg Json.list (canonicalItems_of_ordered (ordered_canonicalItems items))
  | .object fields =>
      obtain ⟨increasing, ordered⟩ :=
        ordered_canonicalFields fields List.Pairwise.nil fun _ member => nomatch member
      exact congrArg Json.object (canonicalFields_of_increasing increasing ordered)

/-- The canonical forms of items are in order. -/
theorem ordered_canonicalItems (items : List Json) :
    ∀ item ∈ canonicalItems items, item.Ordered := by
  match items with
  | [] =>
      intro item member
      cases member
  | item :: rest =>
      intro other member
      rcases List.mem_cons.mp member with rfl | later
      · exact ordered_canonical item
      · exact ordered_canonicalItems rest other later

/-- The canonical forms of fields are in order. -/
theorem ordered_canonicalFields (fields : Fields) {acc : Fields} (increasing : acc.Increasing)
    (ordered : ∀ entry ∈ acc, entry.2.Ordered) :
    (canonicalFields acc fields).Increasing ∧
      ∀ entry ∈ canonicalFields acc fields, entry.2.Ordered := by
  match fields with
  | [] => exact ⟨increasing, ordered⟩
  | (key, value) :: rest =>
      refine ordered_canonicalFields rest (increasing.set key value.canonical) ?_
      intro entry member
      rcases Fields.mem_set member with rfl | old
      · exact ordered_canonical value
      · exact ordered entry old

end

/-- An object is in order if its keys are and its values are. -/
theorem ordered_object_iff {fields : Fields} : (Json.object fields).Ordered ↔
    fields.Increasing ∧ ∀ entry ∈ fields, entry.2.Ordered := by
  constructor
  · intro same
    have list : canonicalFields [] fields = fields := Json.object.inj same
    have parts := ordered_canonicalFields fields List.Pairwise.nil fun _ member => nomatch member
    rwa [list] at parts
  · rintro ⟨increasing, ordered⟩
    exact congrArg Json.object (canonicalFields_of_increasing increasing ordered)

/-- The value of a field of an ordered object is in order. -/
theorem Ordered.of_get? {fields : Fields} {key : String} {value : Json}
    (ordered : (Json.object fields).Ordered) (found : fields.get? key = some value) :
    value.Ordered :=
  (ordered_object_iff.mp ordered).2 (key, value) (Fields.mem_of_get? found)

/-- What is read off a text is in order. -/
theorem ordered_of_parse? {text : String} {v : Json} (parsed : parse? text = some v) :
    v.Ordered := by
  obtain ⟨read, _, rfl⟩ := Option.map_eq_some_iff.mp parsed
  exact ordered_canonical read

end QueryRewriting.Json
