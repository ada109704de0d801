import QueryRewriting.Store
import QueryRewriting.Proofs.Json.Canonical

/-! # What a store holds

Each operation of a store comes to a choice: a store that works carries it out, and one that is out
of order answers with its outage and stays as it is. Whatever is found depends on the documents
only, and a document that is written or dropped leaves those of other ids.
-/

namespace QueryRewriting

/-! ## Lists by key -/

section Lookup

variable {κ α : Type} [DecidableEq κ] {key id : κ} {value : α} {entries : List (κ × α)}

/-- What is filtered out is not found. -/
theorem lookup_filter_self (id : κ) (entries : List (κ × α)) :
    (entries.filter (·.1 ≠ id)).lookup id = none := by
  rw [List.lookup_eq_none_iff]
  intro entry member
  have kept := of_decide_eq_true (List.mem_filter.mp member).2
  exact bne_iff_ne.mpr (Ne.symm kept)

/-- What is not filtered out is found as before. -/
theorem lookup_filter_of_ne (distinct : key ≠ id) (entries : List (κ × α)) :
    (entries.filter (·.1 ≠ id)).lookup key = entries.lookup key := by
  induction entries with
  | nil => rfl
  | cons entry rest ih =>
      obtain ⟨entryKey, entryValue⟩ := entry
      by_cases same : entryKey = id
      · subst same
        have different : (key == entryKey) = false := beq_eq_false_iff_ne.mpr distinct
        rw [List.filter_cons_of_neg (by simp), ih]
        simp only [List.lookup_cons, different]
      · rw [List.filter_cons_of_pos (by simpa using same)]
        simp only [List.lookup_cons, ih]

/-- Only what was there can be found when a key has been taken out. -/
theorem lookup_of_lookup_filter
    (found : (entries.filter (·.1 ≠ id)).lookup key = some value) :
    key ≠ id ∧ entries.lookup key = some value := by
  by_cases same : key = id
  · subst same
    rw [lookup_filter_self] at found
    cases found
  · exact ⟨same, by rwa [lookup_filter_of_ne same] at found⟩

end Lookup

namespace Store

variable {store other left : Store} {id key : String} {definition : Definition}

/-! ## Reading -/

/-- The store holds a definition: this is what a read of the id finds now. -/
def Holds (store : Store) (id : String) (definition : Definition) : Prop :=
  store.find? id = .ok (some definition)

theorem find?_congr (same : store.documents = other.documents) (id : String) :
    store.find? id = other.find? id := by
  unfold find?
  rw [same]

theorem holds_congr (same : store.documents = other.documents) :
    store.Holds id definition ↔ other.Holds id definition := by
  unfold Holds
  rw [find?_congr same]

/-- A store that works lets every read begin, and one that is out of order none. -/
theorem beginRead_eq (store : Store) :
    store.beginRead =
      if store.available then .ok { store with reads := store.reads + 1 } else .error outage := by
  unfold beginRead permit
  cases store.available <;> rfl

/-- A store that works replies with what it holds, and counts the read. -/
theorem get_eq (store : Store) (id : String) :
    store.get id =
      if store.available then (store.find? id, { store with reads := store.reads + 1 })
      else (.error outage, store) := by
  rw [get, beginRead_eq]
  cases store.available <;> rfl

theorem documents_get (store : Store) (id : String) :
    (store.get id).2.documents = store.documents := by
  rw [get_eq]
  split <;> rfl

theorem available_get (store : Store) (id : String) :
    (store.get id).2.available = store.available := by
  rw [get_eq]
  split <;> rfl

/-- What a store replies with it holds. -/
theorem holds_of_get (found : (store.get id).1 = .ok (some definition)) :
    store.Holds id definition := by
  rw [get_eq] at found
  split at found
  · exact found
  · cases found

/-- Two stores that hold the same and work alike reply alike. -/
theorem get_congr (documents : other.documents = store.documents)
    (available : other.available = store.available) (id : String) :
    (other.get id).1 = (store.get id).1 := by
  rw [get_eq, get_eq, available]
  split
  · exact find?_congr documents id
  · rfl

/-! ## Writing -/

/-- Sets the document of an id, or drops it. -/
def write (store : Store) (id : String) (document? : Option Json) : Store :=
  match document? with
  | some document => store.insertDocument id document
  | none => { store with documents := store.documents.erase id }

/-- What was written is there. -/
theorem get?_write_self (store : Store) (id : String) (document? : Option Json) :
    (store.write id document?).documents.get? id = document? := by
  cases document? with
  | some document => exact (Json.Fields.get?_set ..).trans (by simp)
  | none => exact lookup_filter_self id store.documents

/-- Writing an id leaves the documents of the others. -/
theorem get?_write_of_ne (distinct : key ≠ id) (store : Store) (document? : Option Json) :
    (store.write id document?).documents.get? key = store.documents.get? key := by
  cases document? with
  | some document => exact Json.Fields.get?_set_of_ne distinct store.documents document
  | none => exact lookup_filter_of_ne distinct store.documents

theorem available_write (store : Store) (id : String) (document? : Option Json) :
    (store.write id document?).available = store.available := by
  cases document? <;> rfl

theorem find?_write_of_ne (distinct : key ≠ id) (document? : Option Json) :
    (store.write id document?).find? key = store.find? key := by
  unfold find?
  rw [get?_write_of_ne distinct]

/-- What a store holds when a document was written is what the document says. -/
theorem holds_write_some {document : Json} :
    (store.write id (some document)).Holds id definition ↔
      Definition.ofDocument id document = .ok definition := by
  unfold Holds find?
  rw [get?_write_self]
  cases reads : Definition.ofDocument id document <;> simp [reads]

/-- What was dropped is not found. -/
theorem find?_write_none (store : Store) (id : String) :
    (store.write id none).find? id = .ok none := by
  unfold find?
  rw [get?_write_self]

/-- A put writes the document of its definition. -/
theorem put_eq (store : Store) (definition : Definition) :
    store.put definition =
      if store.available then .ok (store.write definition.id (some definition.toDocument))
      else .error outage := by
  unfold put permit
  cases store.available <;> rfl

/-- A deletion answers whether there was a document, and drops it. -/
theorem delete_eq (store : Store) (id : String) :
    store.delete id =
      if store.available then .ok ((store.documents.get? id).isSome, store.write id none)
      else .error outage := by
  unfold delete permit
  by_cases works : store.available = true
  · rw [if_pos works, if_pos works]
    rfl
  · rw [if_neg works, if_neg works]
    rfl

/-- What a put leaves is the store with the document written. -/
theorem of_put (stored : store.put definition = .ok left) :
    left = store.write definition.id (some definition.toDocument) := by
  rw [put_eq] at stored
  split at stored
  · cases stored
    rfl
  · cases stored

/-- What a deletion answers and leaves. -/
theorem of_delete {deleted : Bool} (erased : store.delete id = .ok (deleted, left)) :
    deleted = (store.documents.get? id).isSome ∧ left = store.write id none := by
  rw [delete_eq] at erased
  split at erased
  · cases erased
    exact ⟨rfl, rfl⟩
  · cases erased

end Store

end QueryRewriting
