import Mathlib.Order.Nat
import QueryRewriting.Cache.Partition
import QueryRewriting.Proofs.Store.Documents

/-! # What a partition holds

How each undivided operation changes the instance of an id and the load of an id that is under way.
-/

namespace QueryRewriting

namespace PartitionCache

variable {cache : PartitionCache} {key id : String} {made found : Instance}

/-! ## Instances -/

@[simp] theorem get?_empty (partition : Partition) (maxBytes : Option Nat) (key : String) :
    (empty partition maxBytes).get? key = none := rfl

@[simp] theorem get?_remove_self (cache : PartitionCache) (id : String) :
    (cache.remove id).get? id = none :=
  lookup_filter_self id cache.entries

theorem get?_remove_of_ne (distinct : key ≠ id) (cache : PartitionCache) :
    (cache.remove id).get? key = cache.get? key :=
  lookup_filter_of_ne distinct cache.entries

theorem get?_of_remove (held : (cache.remove id).get? key = some made) :
    cache.get? key = some made :=
  (lookup_of_lookup_filter held).2

theorem get?_insert_self (room : cache.maxBytes ≠ some 0) (made : Instance) :
    (cache.insert made).get? made.id = some made := by
  simp [insert, room, get?]

/-- Putting an instance in leaves those of other ids. -/
theorem get?_insert_of_ne (distinct : key ≠ made.id) (cache : PartitionCache) :
    (cache.insert made).get? key = cache.get? key := by
  have different : (key == made.id) = false := by simpa using distinct
  unfold insert
  split
  · rfl
  · simp only [get?, List.lookup_cons, different]
    exact get?_remove_of_ne distinct cache

/-- What is held after an instance was put in was held before, or is that instance. -/
theorem get?_of_insert (held : (cache.insert made).get? key = some found) :
    cache.get? key = some found ∨ (key = made.id ∧ found = made ∧ cache.maxBytes ≠ some 0) := by
  unfold insert at held
  split at held
  · exact Or.inl held
  · rename_i room
    simp only [get?, List.lookup_cons] at held
    split at held
    · rename_i same
      exact Or.inr ⟨by simpa using same, (Option.some.inj held).symm, room⟩
    · exact Or.inl (get?_of_remove held)

/-- Dropping an instance leaves those of other ids. -/
theorem get?_discard_of_ne (distinct : key ≠ made.id) (cache : PartitionCache) :
    (cache.discard made).get? key = cache.get? key := by
  unfold discard
  split
  · exact get?_remove_of_ne distinct cache
  · rfl

/-- What is held after an instance was dropped was held before. -/
theorem get?_of_discard (held : (cache.discard made).get? key = some found) :
    cache.get? key = some found := by
  unfold discard at held
  split at held
  · exact get?_of_remove held
  · exact held

/-! ## Marks and room -/

@[simp] theorem marks_insert (cache : PartitionCache) (made : Instance) :
    (cache.insert made).marks = cache.marks := by
  unfold insert
  split <;> rfl

@[simp] theorem isStale_insert (cache : PartitionCache) (made found : Instance) :
    (cache.insert made).isStale found = cache.isStale found := by
  rw [isStale, marks_insert, isStale]

@[simp] theorem marks_discard (cache : PartitionCache) (made : Instance) :
    (cache.discard made).marks = cache.marks := by
  unfold discard
  split <;> rfl

@[simp] theorem maxBytes_insert (cache : PartitionCache) (made : Instance) :
    (cache.insert made).maxBytes = cache.maxBytes := by
  unfold insert
  split <;> rfl

@[simp] theorem maxBytes_discard (cache : PartitionCache) (made : Instance) :
    (cache.discard made).maxBytes = cache.maxBytes := by
  unfold discard
  split <;> rfl

/-! ## Loads -/

@[simp] theorem loads_insert (cache : PartitionCache) (made : Instance) :
    (cache.insert made).loads = cache.loads := by
  unfold insert
  split <;> rfl

@[simp] theorem loads_discard (cache : PartitionCache) (made : Instance) :
    (cache.discard made).loads = cache.loads := by
  unfold discard
  split <;> rfl

@[simp] theorem nextSerial_insert (cache : PartitionCache) (made : Instance) :
    (cache.insert made).nextSerial = cache.nextSerial := by
  unfold insert
  split <;> rfl

@[simp] theorem nextSerial_discard (cache : PartitionCache) (made : Instance) :
    (cache.discard made).nextSerial = cache.nextSerial := by
  unfold discard
  split <;> rfl

@[simp] theorem loading?_empty (partition : Partition) (maxBytes : Option Nat) (key : String) :
    (empty partition maxBytes).loading? key = none := rfl

@[simp] theorem loading?_beginLoad_self (cache : PartitionCache) (id : String) :
    (cache.beginLoad id).2.loading? id = some cache.nextSerial := by
  simp [beginLoad, loading?]

theorem loading?_beginLoad_of_ne (distinct : key ≠ id) (cache : PartitionCache) :
    (cache.beginLoad id).2.loading? key = cache.loading? key := by
  have different : (key == id) = false := by simpa using distinct
  simp [beginLoad, loading?, List.lookup_cons, different]

@[simp] theorem loading?_endLoad_self (cache : PartitionCache) (id : String) :
    (cache.endLoad id).loading? id = none :=
  lookup_filter_self id cache.loads

theorem loading?_endLoad_of_ne (distinct : key ≠ id) (cache : PartitionCache) :
    (cache.endLoad id).loading? key = cache.loading? key :=
  lookup_filter_of_ne distinct cache.loads

end PartitionCache

end QueryRewriting
