import QueryRewriting.Proofs.Cluster.Applications

/-! # Lookups one after the other

A lookup that nothing disturbs touches no instance but that of its id, and whether it fails depends
on this instance and on the store alone. So when ids are looked up one after the other, the first
failure is that of the first id that fails by itself, the ids before it are held, and all others are
left as they were. -/

namespace QueryRewriting

/-! ## Faults -/

/-- The error that an outcome is, if it is one. -/
def errorOf? {ε α : Type} : Except ε α → Option ε
  | .ok _ => none
  | .error e => some e

/-- There is no error exactly if there is a value. -/
theorem errorOf?_eq_none_iff {ε α : Type} {outcome : Except ε α} :
    errorOf? outcome = none ↔ ∃ value, outcome = .ok value := by
  cases outcome <;> simp [errorOf?]

/-- An outcome is an error exactly if that error is what it comes to. -/
theorem errorOf?_eq_some_iff {ε α : Type} {outcome : Except ε α} {e : ε} :
    errorOf? outcome = some e ↔ outcome = .error e := by
  cases outcome <;> simp [errorOf?]

/-- What keeps the reply of a store from being made an instance does not depend on when this is
tried. -/
theorem Instance.errorOf?_compile (kinds : Kinds) (serial other : Nat) (id : String)
    (stamp late : Nat) (reply : Except StoreError (Option Definition)) :
    errorOf? (compile kinds serial id stamp reply) =
      errorOf? (compile kinds other id late reply) := by
  cases reply with
  | error e => rfl
  | ok found =>
      cases found with
      | none => rfl
      | some definition =>
          simp only [compile]
          cases kinds.load id definition <;> rfl

namespace PartitionCache

variable {kinds : Kinds} {store left : Store} {cache after : PartitionCache} {id : String}
  {P : String → Definition → Prop}

/-- What keeps an id from being found, if anything does. -/
def fault? (kinds : Kinds) (store : Store) (cache : PartitionCache) (id : String) :
    Option LoadError :=
  errorOf? (cache.lookup kinds id store).1

/-- With what a fetch fails does not depend on the cache. -/
theorem errorOf?_fetch (kinds : Kinds) (id : String) (store : Store) (cache : PartitionCache) :
    errorOf? (cache.fetch kinds id store).1 =
      errorOf? (Instance.compile kinds 0 id 0 (store.get id).1) := by
  rw [← Instance.errorOf?_compile kinds cache.nextSerial 0 id cache.marks.clock]
  unfold fetch
  cases compiled : Instance.compile kinds cache.nextSerial id cache.marks.clock (store.get id).1 <;>
    simp only [compiled]

/-- An instance that is held and not stale is found; everything else is loaded. -/
theorem Quiet.fault?_eq (quiet : cache.Quiet kinds P) :
    cache.fault? kinds store id =
      if (cache.get? id).any fun made => !cache.isStale made then none
      else errorOf? (Instance.compile kinds 0 id 0 (store.get id).1) := by
  rw [fault?, quiet.lookup_eq]
  cases held : cache.get? id with
  | none => exact errorOf?_fetch kinds id store cache
  | some made =>
      cases stale : cache.isStale made with
      | false => simp [stale, errorOf?]
      | true => simpa [stale] using errorOf?_fetch kinds id store (cache.remove id)

/-! ## One lookup -/

/-- What a lookup does to a partition: nothing but that it holds now for the id what it answered. -/
structure Finds (id : String) (answer : Except LoadError Instance)
    (before after : PartitionCache) : Prop where
  marks : after.marks = before.marks
  maxBytes : after.maxBytes = before.maxBytes
  own : after.get? id = answer.toOption
  others : ∀ key, key ≠ id → after.get? key = before.get? key

/-- A fetch finds what it loads and puts it into the cache. -/
theorem fetch_finds (room : cache.maxBytes ≠ some 0) (missing : cache.get? id = none)
    (store : Store) :
    Finds id (cache.fetch kinds id store).1 cache (cache.fetch kinds id store).2.2 := by
  unfold fetch
  cases compiled :
      Instance.compile kinds cache.nextSerial id cache.marks.clock (store.get id).1 with
  | error e =>
      simp only [compiled]
      exact ⟨rfl, rfl, missing, fun _ _ => rfl⟩
  | ok made =>
      obtain ⟨_, rfl, _⟩ := Instance.of_compile compiled
      simp only [compiled]
      have left : cache.takeSerial.2.maxBytes ≠ some 0 := room
      have held := get?_insert_self left made
      refine ⟨marks_insert .., maxBytes_insert .., held, ?_⟩
      exact fun key other => get?_insert_of_ne other _

/-- A lookup touches no id but its own. -/
theorem Quiet.lookup_finds (quiet : cache.Quiet kinds P) (room : cache.maxBytes ≠ some 0)
    (id : String) (store : Store) :
    Finds id (cache.lookup kinds id store).1 cache (cache.lookup kinds id store).2.2 := by
  rw [quiet.lookup_eq]
  cases held : cache.get? id with
  | none => exact fetch_finds room held store
  | some made =>
      by_cases stale : cache.isStale made = true
      · simp only [if_pos stale]
        have left : (cache.remove id).maxBytes ≠ some 0 := room
        obtain ⟨marks, maxBytes, own, others⟩ :=
          fetch_finds left (get?_remove_self cache id) store
        refine ⟨marks, maxBytes, own, fun key other => ?_⟩
        exact (others key other).trans (get?_remove_of_ne other cache)
      · simp only [if_neg stale]
        exact ⟨rfl, rfl, held, fun _ _ => rfl⟩

/-! ## Chains -/

/-- The instances of some ids, looked up in this order until one is not there. -/
def lookupAll (kinds : Kinds) (store : Store) (cache : PartitionCache) :
    List String → Except LoadError (List Instance) × Store × PartitionCache
  | [] => (.ok [], store, cache)
  | id :: rest =>
    match cache.lookup kinds id store with
    | (.error e, store, cache) => (.error e, store, cache)
    | (.ok found, store, cache) =>
      let (others, store, cache) := lookupAll kinds store cache rest
      (others.map (found :: ·), store, cache)

/-- A partition goes on as it was between two lookups: it is quiet, its marks and its room are the
same, and so is what the store would reply. -/
structure Onward (kinds : Kinds) (store : Store) (before : PartitionCache) (left : Store)
    (after : PartitionCache) : Prop where
  documents : left.documents = store.documents
  available : left.available = store.available
  quiet : after.Quiet kinds fun _ _ => True
  marks : after.marks = before.marks
  maxBytes : after.maxBytes = before.maxBytes

/-- A lookup goes onward: it only adds to what a quiet cache holds. -/
theorem Quiet.onward (quiet : cache.Quiet kinds fun _ _ => True) (room : cache.maxBytes ≠ some 0)
    (id : String) (store : Store) :
    Onward kinds store cache (cache.lookup kinds id store).2.1
      (cache.lookup kinds id store).2.2 := by
  obtain ⟨documents, after, _⟩ := quiet.lookup (fun key d (_ : store.Holds key d) => trivial) id
  obtain ⟨marks, maxBytes, _, _⟩ := quiet.lookup_finds room id store
  exact ⟨documents, quiet.available_lookup, after, marks, maxBytes⟩

/-- An id that was left alone is found, or fails, as before. -/
theorem Onward.fault?_eq (onward : Onward kinds store cache left after)
    (quiet : cache.Quiet kinds P) (alone : after.get? id = cache.get? id) :
    after.fault? kinds left id = cache.fault? kinds store id := by
  rw [onward.quiet.fault?_eq, quiet.fault?_eq, alone,
    Store.get_congr onward.documents onward.available]
  unfold isStale
  rw [onward.marks]

theorem Onward.refl (quiet : cache.Quiet kinds fun _ _ => True) :
    Onward kinds store cache store cache :=
  ⟨rfl, rfl, quiet, rfl, rfl⟩

/-- Two lookups go onward one after the other. -/
theorem Onward.trans {last : PartitionCache} {rest : Store}
    (first : Onward kinds store cache left after) (second : Onward kinds left after rest last) :
    Onward kinds store cache rest last where
  documents := second.documents.trans first.documents
  available := second.available.trans first.available
  quiet := second.quiet
  marks := second.marks.trans first.marks
  maxBytes := second.maxBytes.trans first.maxBytes

/-- Some ids were looked up and all of them found: the instances that were found are held, and no
other id was touched. -/
structure Gathers (kinds : Kinds) (store : Store) (before : PartitionCache) (ids : List String)
    (chain : List Instance) (left : Store) (after : PartitionCache) : Prop where
  onward : Onward kinds store before left after
  named : chain.map (·.id) = ids
  held : ids.map after.get? = chain.map some
  others : ∀ key, key ∉ ids → after.get? key = before.get? key

/-- Ids are looked up one after the other, up to the first that fails. -/
theorem lookupAll_cons (kinds : Kinds) (store : Store) (cache : PartitionCache) (id : String)
    (rest : List String) :
    cache.lookupAll kinds store (id :: rest) =
      match cache.lookup kinds id store with
      | (.error e, store, cache) => (.error e, store, cache)
      | (.ok found, store, cache) =>
        ((cache.lookupAll kinds store rest).1.map (found :: ·),
          (cache.lookupAll kinds store rest).2) := by
  cases looked : cache.lookup kinds id store with
  | mk outcome left => cases outcome <;> simp only [lookupAll, looked]

/-- Different ids that are each found by themselves are found one after the other. -/
theorem Quiet.lookupAll_ok {ids : List String} (quiet : cache.Quiet kinds fun _ _ => True)
    (room : cache.maxBytes ≠ some 0) (different : ids.Nodup)
    (found : ∀ id ∈ ids, cache.fault? kinds store id = none) :
    ∃ chain left after, cache.lookupAll kinds store ids = (.ok chain, left, after) ∧
      Gathers kinds store cache ids chain left after := by
  induction ids generalizing cache store with
  | nil => exact ⟨[], store, cache, rfl, .refl quiet, rfl, rfl, fun _ _ => rfl⟩
  | cons id rest ih =>
      obtain ⟨apart, different⟩ := List.nodup_cons.mp different
      obtain ⟨made, answers⟩ := errorOf?_eq_none_iff.mp (found id List.mem_cons_self)
      have named := ((quiet.lookup (fun _ _ _ => trivial) id).2.2 made answers).1
      have first := quiet.onward room id store
      have finds := quiet.lookup_finds room id store
      rw [lookupAll_cons]
      generalize cache.lookup kinds id store = result at answers first finds
      obtain ⟨outcome, left, after⟩ := result
      cases answers
      have ahead (key : String) (member : key ∈ rest) : after.fault? kinds left key = none := by
        have other : key ≠ id := fun same => apart (same ▸ member)
        rw [first.fault?_eq quiet (finds.others key other)]
        exact found key (List.mem_cons_of_mem id member)
      obtain ⟨chain, last, final, looked, gathers⟩ :=
        ih first.quiet (finds.maxBytes ▸ room) different ahead
      have kept : final.get? id = some made := (gathers.others id apart).trans finds.own
      simp only [looked]
      refine ⟨made :: chain, last, final, rfl, first.trans gathers.onward, ?_, ?_, ?_⟩
      · rw [List.map_cons, named, gathers.named]
      · rw [List.map_cons, List.map_cons, kept, gathers.held]
      · intro key absent
        obtain ⟨other, later⟩ := not_or.mp (List.mem_cons.not.mp absent)
        exact (gathers.others key later).trans (finds.others key other)

/-- When all ids were found, the cache contains each of them. -/
theorem Gathers.contains {ids : List String} {chain : List Instance} {key : String}
    (gathers : Gathers kinds store cache ids chain left after) (member : key ∈ ids) :
    after.contains key = true := by
  have listed : after.get? key ∈ ids.map after.get? := List.mem_map_of_mem member
  rw [gathers.held] at listed
  obtain ⟨made, _, same⟩ := List.mem_map.mp listed
  rw [PartitionCache.contains, ← same]
  rfl

/-- Behind ids that are found, the others are looked up. -/
theorem lookupAll_append {front : List String} (rest : List String) {chain : List Instance}
    (looked : cache.lookupAll kinds store front = (.ok chain, left, after)) :
    cache.lookupAll kinds store (front ++ rest) =
      ((after.lookupAll kinds left rest).1.map (chain ++ ·),
        (after.lookupAll kinds left rest).2) := by
  induction front generalizing cache store chain with
  | nil =>
      cases looked
      rw [List.nil_append]
      rcases after.lookupAll kinds left rest with ⟨_ | _, _⟩ <;> rfl
  | cons id front ih =>
      rw [List.cons_append, lookupAll_cons]
      rw [lookupAll_cons] at looked
      generalize cache.lookup kinds id store = result at looked
      obtain ⟨_ | found, middle, between⟩ := result
      · cases looked
      simp only at looked ⊢
      generalize first : between.lookupAll kinds middle front = result at looked
      obtain ⟨_ | others, _⟩ := result
      · cases looked
      cases looked
      rw [ih first]
      rcases after.lookupAll kinds left rest with ⟨_ | _, _⟩ <;> rfl

/-- Different ids of which one is not found fail with the fault of the first such id. The ids before
it are held, there is nothing under the id itself, and no other id was touched. -/
theorem Quiet.lookupAll_error {front rest : List String} {e : LoadError}
    (quiet : cache.Quiet kinds fun _ _ => True) (room : cache.maxBytes ≠ some 0)
    (different : (front ++ id :: rest).Nodup)
    (found : ∀ key ∈ front, cache.fault? kinds store key = none)
    (fails : cache.fault? kinds store id = some e) :
    ∃ left after, cache.lookupAll kinds store (front ++ id :: rest) = (.error e, left, after) ∧
      (∀ key ∈ front, after.contains key = true) ∧ after.get? id = none ∧
      ∀ key, key ∉ front → key ≠ id → after.get? key = cache.get? key := by
  obtain ⟨distinct, _, apart⟩ := List.nodup_append.mp different
  obtain ⟨chain, left, after, looked, gathers⟩ := quiet.lookupAll_ok room distinct found
  have absent : id ∉ front := fun member => apart id member id List.mem_cons_self rfl
  have onward := gathers.onward
  rw [← onward.fault?_eq quiet (gathers.others id absent)] at fails
  have answers := errorOf?_eq_some_iff.mp fails
  have finds := onward.quiet.lookup_finds (onward.maxBytes ▸ room) id left
  rw [lookupAll_append _ looked, lookupAll_cons]
  generalize after.lookup kinds id left = result at answers finds
  obtain ⟨outcome, last, final⟩ := result
  cases answers
  refine ⟨last, final, rfl, ?_, finds.own, ?_⟩
  · intro key member
    have other : key ≠ id := fun same => absent (same ▸ member)
    rw [PartitionCache.contains, finds.others key other]
    exact gathers.contains member
  · intro key missing other
    exact (finds.others key other).trans (gathers.others key missing)

end PartitionCache

end QueryRewriting
