import Mathlib.Logic.Function.Basic
import QueryRewriting.Proofs.Cache.Undisturbed

/-! # A partition as a plain map

What a partition holds is shown by a plain map from ids to what was loaded for them last, without
clocks, marks, serial numbers and traces. A call that nothing disturbs does to the map that a
partition shows what it would do to a plain one. There are two exceptions: a stale instance counts
as absent once it is looked up, and an invalidation also answers for the trace of an instance. -/

namespace QueryRewriting

/-! ## Plain maps -/

/-- A definition that was loaded, with the rewriter made of it. -/
structure Loaded where
  definition : Definition
  rewriter : Rewriter

/-- What the store's reply for an id is loaded as. -/
def Kinds.loaded (kinds : Kinds) (id : String) :
    Except StoreError (Option Definition) → Except LoadError Loaded
  | .error e => .error (.ofStore e)
  | .ok none => .error (.notFound id)
  | .ok (some definition) =>
    match kinds.load id definition with
    | .ok rewriter => .ok { definition, rewriter }
    | .error e => .error (.rewriter e)

/-- A store, and what was loaded last from it under each id that is held. -/
structure PlainMap where
  store : Store
  held : String → Option Loaded

namespace PlainMap

/-- Whether an id is held. -/
def holds (plain : PlainMap) (id : String) : Bool := (plain.held id).isSome

/-- Holds an entry under an id, or nothing any more. -/
def set (plain : PlainMap) (id : String) (value : Option Loaded) : PlainMap :=
  { plain with held := Function.update plain.held id value }

/-- Reads the store once. -/
def read (kinds : Kinds) (id : String) (plain : PlainMap) : Except LoadError Loaded × PlainMap :=
  (kinds.loaded id (plain.store.get id).1, { plain with store := (plain.store.get id).2 })

/-- What is held is answered, what is absent is read and held if it can be loaded. -/
def lookup (kinds : Kinds) (id : String) (plain : PlainMap) : Except LoadError Loaded × PlainMap :=
  match plain.held id with
  | some entry => (.ok entry, plain)
  | none =>
    match plain.read kinds id with
    | (.ok entry, plain) => (.ok entry, plain.set id (some entry))
    | (.error e, plain) => (.error e, plain)

/-- What is held is read again: it is replaced, dropped if its definition is gone, and kept after
any other error. -/
def reload (kinds : Kinds) (id : String) (plain : PlainMap) : Except LoadError Bool × PlainMap :=
  match plain.held id with
  | none => (.ok false, plain)
  | some _ =>
    match plain.read kinds id with
    | (.ok entry, plain) => (.ok true, plain.set id (some entry))
    | (.error (.notFound _), plain) => (.ok true, plain.set id none)
    | (.error e, plain) => (.error e, plain)

/-- Drops what is held under an id; answers whether there was something. -/
def invalidate (id : String) (plain : PlainMap) : Bool × PlainMap :=
  (plain.holds id, plain.set id none)

/-- Drops everything. -/
def invalidateAll (plain : PlainMap) : PlainMap := { plain with held := fun _ => none }

end PlainMap

/-! ## Turns -/

/-- A call that is made and answered, or something that happens between calls: the store is written,
fails or recovers, or the cache is settled, as it is before its entries are counted. -/
inductive Turn where
  | ask (request : Request)
  | write (documents : Json.Fields)
  | outage (failed : Bool)
  | settle

/-- How a turn ends. -/
inductive Answer where
  | found (outcome : Except LoadError Loaded)
  | renewed (outcome : Except LoadError Bool)
  | dropped (held : Bool)
  | done

/-- What a plain map answers to a turn, and what the turn makes of it. -/
def PlainMap.serve (kinds : Kinds) (plain : PlainMap) : Turn → Answer × PlainMap
  | .ask (.lookup id) =>
    let (outcome, plain) := plain.lookup kinds id
    (.found outcome, plain)
  | .ask (.reload id) =>
    let (outcome, plain) := plain.reload kinds id
    (.renewed outcome, plain)
  | .ask (.invalidate id) =>
    let (held, plain) := plain.invalidate id
    (.dropped held, plain)
  | .ask .invalidateAll => (.done, plain.invalidateAll)
  | .write documents => (.done, { plain with store := { plain.store with documents } })
  | .outage failed => (.done, { plain with store := { plain.store with available := !failed } })
  | .settle => (.done, plain)

/-- What is seen of an instance, whenever it was loaded. -/
def Instance.loaded (made : Instance) : Loaded :=
  { definition := made.definition, rewriter := made.rewriter }

namespace PartitionCache

/-- What a cache answers to a turn, and what the turn makes of it and of the store. -/
def serve (kinds : Kinds) (store : Store) (cache : PartitionCache) :
    Turn → Answer × Store × PartitionCache
  | .ask (.lookup id) =>
    let (outcome, after) := cache.lookup kinds id store
    (.found (outcome.map Instance.loaded), after)
  | .ask (.reload id) =>
    let (outcome, after) := cache.reload kinds id store
    (.renewed outcome, after)
  | .ask (.invalidate id) =>
    let (held, cache) := cache.invalidate id
    (.dropped held, store, cache)
  | .ask .invalidateAll => (.done, store, cache.invalidateAll)
  | .write documents => (.done, { store with documents }, cache)
  | .outage failed => (.done, { store with available := !failed }, cache)
  | .settle => (.done, store, cache.settle)

/-- The plain map that a partition shows over its store. -/
def view (store : Store) (cache : PartitionCache) : PlainMap where
  store := store
  held := fun id => (cache.get? id).map Instance.loaded

end PartitionCache

/-! ## Reloads step by step -/

namespace Reload

variable {kinds : Kinds} {store left : Store} {cache after : PartitionCache} {id : String}
  {P : String → Definition → Prop} {reload next : Reload}

/-- A reload that takes a step has one step less to take. -/
theorem run_step (steps : reload.step kinds id store cache = (next, left, after)) (fuel : Nat) :
    run kinds id (fuel + 1) reload store cache = run kinds id fuel next left after := by
  rw [run, steps]

/-- A reload that is answered stays so. -/
theorem run_answered (outcome : Except LoadError Bool) (fuel : Nat) :
    run kinds id fuel (.answered outcome) store cache = (.answered outcome, store, cache) := by
  induction fuel with
  | zero => rfl
  | succ fuel ih => exact ih

/-- What a reload makes of what it has loaded, once nothing can come in between. -/
def finish (id : String) (cache : PartitionCache) :
    Except LoadError Instance → Except LoadError Bool × PartitionCache
  | .ok made => (.ok true, cache.insert made)
  | .error (.notFound _) => (.ok true, (cache.mark id).remove id)
  | .error e => (.error e, cache)

/-- From its outcome on, a reload that nobody disturbs ends in three steps. -/
theorem run_receive (quiet : cache.Quiet kinds P) {loaded : Except LoadError Instance}
    (stamped : ∀ made, loaded = .ok made → made.stamp = cache.marks.clock) (fuel : Nat) :
    run kinds id (fuel + 3) (receive loaded) store cache =
      (.answered (finish id cache loaded).1, store, (finish id cache loaded).2) := by
  cases loaded with
  | ok made =>
      have fresh := PartitionCache.isStale_of_stamp quiet.marks (stamped made rfl)
      have compares : (comparing made).step kinds id store cache =
          (.installing made, store, cache) := by
        simp only [step, fresh]
        rfl
      have installs : (installing made).step kinds id store cache =
          (.rechecking made, store, cache.insert made) := rfl
      have rechecks : (rechecking made).step kinds id store (cache.insert made) =
          (.answered (.ok true), store, cache.insert made) := by
        simp only [step, PartitionCache.isStale_insert, fresh]
        rfl
      rw [receive, run_step compares, run_step installs, run_step rechecks, run_answered]
      rfl
  | error e =>
      cases e with
      | notFound key =>
          have marks : forgetting.step kinds id store cache =
              (.removing, store, cache.mark id) := rfl
          have removes : removing.step kinds id store (cache.mark id) =
              (.answered (.ok true), store, (cache.mark id).remove id) := rfl
          rw [receive, run_step marks, run_step removes, run_answered]
          rfl
      | _ => simp only [receive, run_answered, finish]

/-- What is held is loaded, and the outcome settled, in eight steps. -/
theorem run_held (quiet : cache.Quiet kinds P) (held : cache.contains id = true) (fuel : Nat) :
    run kinds id (fuel + 8) .checking store cache =
      let loaded :=
        Instance.compile kinds cache.nextSerial id cache.marks.clock (store.get id).1
      (.answered (finish id cache.takeSerial.2 loaded).1, (store.get id).2,
        (finish id cache.takeSerial.2 loaded).2) := by
  have begins : checking.step kinds id store cache =
      (.loading cache.nextSerial .starting, store, cache.takeSerial.2) := by
    simp only [step, if_pos held]
    rfl
  have notes : (loading cache.nextSerial .starting).step kinds id store cache.takeSerial.2 =
      (.loading cache.nextSerial (.asking cache.marks.clock), store, cache.takeSerial.2) := rfl
  have stamped (reply : Except StoreError (Option Definition)) (made : Instance)
      (success : Instance.compile kinds cache.nextSerial id cache.marks.clock reply = .ok made) :
      made.stamp = cache.takeSerial.2.marks.clock := (Instance.of_compile success).2.2.1
  have receives (reply : Except StoreError (Option Definition)) (left : Store) :
      (loading cache.nextSerial (.replied cache.marks.clock reply)).step kinds id left
        cache.takeSerial.2 =
      (receive (Instance.compile kinds cache.nextSerial id cache.marks.clock reply), left,
        cache.takeSerial.2) := rfl
  rw [run_step begins, run_step notes]
  cases permitted : store.beginRead with
  | error e =>
      have refused : (loading cache.nextSerial (.asking cache.marks.clock)).step kinds id store
          cache.takeSerial.2 =
          (.loading cache.nextSerial (.replied cache.marks.clock (.error e)), store,
            cache.takeSerial.2) := by
        simp only [step, Load.step, permitted]
      rw [run_step refused, run_step (receives _ _), run_receive quiet.takeSerial (stamped _)]
      simp only [Store.get, permitted]
  | ok counted =>
      have asks : (loading cache.nextSerial (.asking cache.marks.clock)).step kinds id store
          cache.takeSerial.2 =
          (.loading cache.nextSerial (.reading cache.marks.clock), counted,
            cache.takeSerial.2) := by
        simp only [step, Load.step, permitted]
      have reads : (loading cache.nextSerial (.reading cache.marks.clock)).step kinds id counted
          cache.takeSerial.2 =
          (.loading cache.nextSerial (.replied cache.marks.clock (counted.find? id)), counted,
            cache.takeSerial.2) := rfl
      rw [run_step asks, run_step reads, run_step (receives _ _),
        run_receive quiet.takeSerial (stamped _)]
      simp only [Store.get, permitted]

end Reload

namespace PartitionCache

variable {kinds : Kinds} {store : Store} {cache : PartitionCache} {id : String}
  {P : String → Definition → Prop}

/-- **What a reload comes to on a quiet partition.** -/
theorem Quiet.reload_eq (quiet : cache.Quiet kinds P) :
    cache.reload kinds id store =
      if cache.contains id then
        let loaded :=
          Instance.compile kinds cache.nextSerial id cache.marks.clock (store.get id).1
        ((Reload.finish id cache.takeSerial.2 loaded).1, (store.get id).2,
          (Reload.finish id cache.takeSerial.2 loaded).2)
      else (.ok false, store, cache.mark id) := by
  unfold PartitionCache.reload
  by_cases held : cache.contains id = true
  · have steps : Reload.maxSteps = 1 + 8 := rfl
    rw [if_pos held, steps, Reload.run_held quiet held]
    rfl
  · have steps : Reload.maxSteps = 7 + 2 := rfl
    have checks : Reload.checking.step kinds id store cache = (.marking, store, cache) := by
      simp only [Reload.step, if_neg held]
    have marks : Reload.marking.step kinds id store cache =
        (.answered (.ok false), store, cache.mark id) := rfl
    rw [if_neg held, steps, Reload.run_step checks, Reload.run_step marks, Reload.run_answered]
    rfl

/-! ## The view of each operation -/

/-- What is seen under an id is what the instance there was loaded as. -/
theorem held_view (store : Store) (cache : PartitionCache) (id : String) :
    (cache.view store).held id = (cache.get? id).map Instance.loaded := rfl

/-- An id is seen exactly if the cache contains it. -/
theorem holds_view (store : Store) (cache : PartitionCache) (id : String) :
    (cache.view store).holds id = cache.contains id := by
  rw [PlainMap.holds, held_view, Option.isSome_map]
  rfl

/-- Removing an id is seen as such. -/
theorem view_remove (store : Store) (cache : PartitionCache) (id : String) :
    (cache.remove id).view store = (cache.view store).set id none := by
  unfold view PlainMap.set
  congr 1
  funext key
  by_cases same : key = id
  · subst same
    rw [get?_remove_self, Function.update_self]
    rfl
  · rw [get?_remove_of_ne same, Function.update_of_ne same]

/-- An instance that is put in is seen under its id. -/
theorem view_insert (room : cache.maxBytes ≠ some 0) (store : Store) (made : Instance) :
    (cache.insert made).view store = (cache.view store).set made.id (some made.loaded) := by
  unfold view PlainMap.set
  congr 1
  funext key
  by_cases same : key = made.id
  · subst same
    rw [get?_insert_self room, Function.update_self]
    rfl
  · rw [get?_insert_of_ne same, Function.update_of_ne same]

/-- What is loaded does not depend on when, or as the how manieth, it is. -/
theorem loaded_compile (kinds : Kinds) (serial : Nat) (id : String) (stamp : Nat)
    (reply : Except StoreError (Option Definition)) :
    (Instance.compile kinds serial id stamp reply).map Instance.loaded = kinds.loaded id reply := by
  cases reply with
  | error e => rfl
  | ok found =>
      cases found with
      | none => rfl
      | some definition =>
          simp only [Instance.compile, Kinds.loaded]
          cases kinds.load id definition <;> rfl

/-- What the map reads is what the cache would compile. -/
theorem read_view (kinds : Kinds) (id : String) (store : Store) (cache : PartitionCache) :
    (cache.view store).read kinds id =
      ((Instance.compile kinds cache.nextSerial id cache.marks.clock (store.get id).1).map
        Instance.loaded, cache.view (store.get id).2) := by
  rw [loaded_compile]
  rfl

/-- A fetch does what a lookup of an absent id does to a plain map. -/
theorem view_fetch (room : cache.maxBytes ≠ some 0) (missing : cache.get? id = none) :
    ((cache.fetch kinds id store).1.map Instance.loaded,
        (cache.fetch kinds id store).2.2.view (cache.fetch kinds id store).2.1) =
      (cache.view store).lookup kinds id := by
  have absent : (cache.view store).held id = none := by
    rw [held_view, missing]
    rfl
  unfold PlainMap.lookup fetch
  simp only [absent, read_view]
  cases compiled :
      Instance.compile kinds cache.nextSerial id cache.marks.clock (store.get id).1 with
  | error e => rfl
  | ok made =>
      obtain ⟨_, rfl, _⟩ := Instance.of_compile compiled
      have left : cache.takeSerial.2.maxBytes ≠ some 0 := room
      simp only [Except.map, view_insert left]
      rfl

/-- The plain map that a turn meets. A stale instance counts as absent when it is looked up. -/
def shown (store : Store) (cache : PartitionCache) : Turn → PlainMap
  | .ask (.lookup id) =>
    if (cache.get? id).any cache.isStale then (cache.view store).set id none else cache.view store
  | _ => cache.view store

/-- A lookup that nothing disturbs is seen as one on the map. -/
theorem Quiet.view_lookup (quiet : cache.Quiet kinds P) (room : cache.maxBytes ≠ some 0)
    (id : String) (store : Store) :
    ((cache.lookup kinds id store).1.map Instance.loaded,
        (cache.lookup kinds id store).2.2.view (cache.lookup kinds id store).2.1) =
      (cache.shown store (.ask (.lookup id))).lookup kinds id := by
  rw [quiet.lookup_eq, shown]
  cases held : cache.get? id with
  | none =>
      rw [Option.any_none, if_neg Bool.false_ne_true]
      exact view_fetch room held
  | some made =>
      rw [Option.any_some]
      by_cases stale : cache.isStale made = true
      · have left : (cache.remove id).maxBytes ≠ some 0 := room
        simp only [if_pos stale]
        rw [← view_remove]
        exact view_fetch left (get?_remove_self cache id)
      · have present : (cache.view store).held id = some made.loaded := by
          rw [held_view, held]
          rfl
        simp only [if_neg stale, PlainMap.lookup, present]
        rfl

/-- A reload that nothing disturbs is seen as one on the map. -/
theorem Quiet.view_reload (quiet : cache.Quiet kinds P) (room : cache.maxBytes ≠ some 0)
    (id : String) (store : Store) :
    ((cache.reload kinds id store).1,
        (cache.reload kinds id store).2.2.view (cache.reload kinds id store).2.1) =
      (cache.view store).reload kinds id := by
  rw [quiet.reload_eq]
  cases held : cache.get? id with
  | none =>
      have absent : (cache.view store).held id = none := by
        rw [held_view, held]
        rfl
      rw [contains, held, Option.isSome_none, if_neg Bool.false_ne_true, PlainMap.reload, absent]
      rfl
  | some old =>
      have present : (cache.view store).held id = some old.loaded := by
        rw [held_view, held]
        rfl
      have left : cache.takeSerial.2.maxBytes ≠ some 0 := room
      rw [contains, held, Option.isSome_some, if_pos rfl]
      unfold PlainMap.reload
      simp only [present, read_view]
      cases compiled :
          Instance.compile kinds cache.nextSerial id cache.marks.clock (store.get id).1 with
      | ok made =>
          obtain ⟨_, rfl, _⟩ := Instance.of_compile compiled
          simp only [Reload.finish, Except.map, view_insert left]
          rfl
      | error e =>
          cases e with
          | notFound key =>
              simp only [Reload.finish, Except.map, view_remove]
              rfl
          | _ => rfl

/-- Whether a turn drops nothing but the trace of an instance. -/
def meetsTrace (cache : PartitionCache) : Turn → Bool
  | .ask (.invalidate id) => !cache.contains id && cache.cleared.contains id
  | _ => false

/-- Nothing that is held is too heavy. -/
def Light (cache : PartitionCache) : Prop := ∀ entry ∈ cache.entries, cache.fits entry.2 = true

/-- Without a budget nothing is too heavy. -/
theorem light_of_unbounded (unbounded : cache.maxBytes = none) : cache.Light := by
  intro entry _
  rw [fits, unbounded]

/-- A cache that holds nothing too heavy is settled by sweeping the traces. -/
theorem Light.settle_eq (light : cache.Light) : cache.settle = { cache with cleared := [] } := by
  rw [PartitionCache.settle, List.filter_eq_self.mpr light]

/-- **One turn on a quiet partition does to the plain map that it meets what it would do to any
plain map.** Only its answer is another one where an invalidation meets a trace. -/
theorem Quiet.view_serve (quiet : cache.Quiet kinds P) (room : cache.maxBytes ≠ some 0)
    (light : cache.Light) (store : Store) (turn : Turn) :
    (cache.serve kinds store turn).2.2.view (cache.serve kinds store turn).2.1 =
        ((cache.shown store turn).serve kinds turn).2 ∧
      (cache.serve kinds store turn).1 =
        if cache.meetsTrace turn then .dropped true
        else ((cache.shown store turn).serve kinds turn).1 := by
  cases turn with
  | ask request =>
      cases request with
      | lookup id =>
          obtain ⟨answers, shows⟩ := Prod.mk.inj (quiet.view_lookup room id store)
          simp only [serve, PlainMap.serve, meetsTrace, Bool.false_eq_true, if_false]
          exact ⟨shows, congrArg Answer.found answers⟩
      | reload id =>
          obtain ⟨answers, shows⟩ := Prod.mk.inj (quiet.view_reload room id store)
          simp only [serve, PlainMap.serve, meetsTrace, Bool.false_eq_true, if_false]
          exact ⟨shows, congrArg Answer.renewed answers⟩
      | invalidate id =>
          refine ⟨view_remove store (cache.mark id) id, ?_⟩
          simp only [serve, PartitionCache.invalidate, occupies, meetsTrace, shown, PlainMap.serve,
            PlainMap.invalidate, holds_view]
          cases cache.contains id <;> cases cache.cleared.contains id <;> rfl
      | invalidateAll => exact ⟨rfl, rfl⟩
  | settle =>
      rw [PartitionCache.serve, light.settle_eq]
      exact ⟨rfl, rfl⟩
  | _ => exact ⟨rfl, rfl⟩

/-! ## What a turn leaves -/

/-- A quiet cache is quiet when a reload has finished. -/
theorem Quiet.finish (quiet : cache.Quiet kinds fun _ _ => True)
    {loaded : Except LoadError Instance}
    (sound : ∀ made, loaded = .ok made → kinds.load made.id made.definition = .ok made.rewriter) :
    (Reload.finish id cache loaded).2.Quiet kinds fun _ _ => True := by
  cases loaded with
  | ok made => exact quiet.insert (sound made rfl) trivial
  | error e =>
      cases e with
      | notFound key => exact (quiet.mark id).remove id
      | _ => exact quiet

/-- A turn leaves a quiet partition. -/
theorem Quiet.serve (quiet : cache.Quiet kinds fun _ _ => True) (light : cache.Light)
    (store : Store) (turn : Turn) :
    (cache.serve kinds store turn).2.2.Quiet kinds fun _ _ => True := by
  cases turn with
  | ask request =>
      cases request with
      | lookup id => exact (quiet.lookup (fun _ _ _ => trivial) id).2.1
      | reload id =>
          rw [PartitionCache.serve, quiet.reload_eq]
          by_cases held : cache.contains id = true
          · rw [if_pos held]
            refine quiet.takeSerial.finish fun made success => ?_
            obtain ⟨_, rfl, _, _, loads⟩ := Instance.of_compile success
            exact loads
          · rw [if_neg held]
            exact quiet.mark id
      | invalidate id => exact (quiet.mark id).remove id
      | invalidateAll => exact quiet.invalidateAll
  | settle =>
      rw [PartitionCache.serve, light.settle_eq]
      exact quiet.of_sublist quiet.marks rfl rfl fun _ _ held => held
  | _ => exact quiet

@[simp] theorem maxBytes_fetch (kinds : Kinds) (id : String) (store : Store)
    (cache : PartitionCache) : (cache.fetch kinds id store).2.2.maxBytes = cache.maxBytes := by
  unfold PartitionCache.fetch
  cases compiled :
      Instance.compile kinds cache.nextSerial id cache.marks.clock (store.get id).1 with
  | error e => simp only [compiled, takeSerial]
  | ok made => simp only [compiled, takeSerial, maxBytes_insert]

theorem maxBytes_finish (id : String) (cache : PartitionCache)
    (loaded : Except LoadError Instance) :
    (Reload.finish id cache loaded).2.maxBytes = cache.maxBytes := by
  cases loaded with
  | ok made => exact maxBytes_insert cache made
  | error e => cases e <;> rfl

/-- Nothing that a turn does changes how much there is room for. -/
theorem Quiet.maxBytes_serve (quiet : cache.Quiet kinds P) (store : Store) (turn : Turn) :
    (cache.serve kinds store turn).2.2.maxBytes = cache.maxBytes := by
  cases turn with
  | ask request =>
      cases request with
      | lookup id =>
          rw [PartitionCache.serve, quiet.lookup_eq]
          cases held : cache.get? id with
          | none => exact maxBytes_fetch ..
          | some made =>
              by_cases stale : cache.isStale made = true
              · simp only [if_pos stale]
                exact maxBytes_fetch ..
              · simp only [if_neg stale]
      | reload id =>
          rw [PartitionCache.serve, quiet.reload_eq]
          by_cases held : cache.contains id = true
          · rw [if_pos held]
            exact maxBytes_finish ..
          · rw [if_neg held]
            rfl
      | _ => rfl
  | _ => rfl

end PartitionCache

end QueryRewriting
