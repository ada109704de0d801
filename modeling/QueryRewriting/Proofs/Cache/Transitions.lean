import QueryRewriting.Cache.Call
import QueryRewriting.Proofs.Store.Documents

/-! # What a step of a call can do

Each constructor is one branch of a step: where the call stands, what it finds, and what the step
makes of the call, the store and the cache. What holds after a step is derived by cases on these,
so no proof about steps opens the definitions of the steps again.
-/

namespace QueryRewriting

/-! ## Loads -/

/-- A step of a load that has no reply yet, when the clock of the partition stands at `clock`. -/
inductive Load.Transition (id : String) (clock : Nat) (store : Store) :
    Load → Load × Store → Prop where
  | noted : Transition id clock store .starting (.asking clock, store)
  | admitted {stamp} (works : store.available = true) :
      Transition id clock store (.asking stamp)
        (.reading stamp, { store with reads := store.reads + 1 })
  | refused {stamp} (fails : store.available = false) :
      Transition id clock store (.asking stamp) (.replied stamp (.error Store.outage), store)
  | told {stamp} :
      Transition id clock store (.reading stamp) (.replied stamp (store.find? id), store)

/-- A step of a load that has no reply is one of these. -/
theorem Load.transition_step {load : Load} (unanswered : load.hasReply = false) (id : String)
    (clock : Nat) (store : Store) : load.Transition id clock store (load.step id clock store) := by
  cases load with
  | starting => exact .noted
  | asking stamp =>
      cases works : store.available with
      | true =>
          rw [step, Store.beginRead_eq, if_pos works]
          exact .admitted works
      | false =>
          rw [step, Store.beginRead_eq, if_neg (Bool.eq_false_iff.mp works)]
          exact .refused works
  | reading stamp => exact .told
  | replied stamp reply => cases unanswered

/-- Where a load gets to is where its step leads. -/
theorem Load.Transition.eq_step {id : String} {clock : Nat} {store counted : Store}
    {load after : Load} (moves : load.Transition id clock store (after, counted)) :
    after = (load.step id clock store).1 := by
  cases moves with
  | admitted works => rw [step, Store.beginRead_eq, if_pos works]
  | refused fails => rw [step, Store.beginRead_eq, if_neg (Bool.eq_false_iff.mp fails)]
  | _ => rfl

/-! ## What a load comes to -/

namespace Instance

/-- An instance is made of the reply that was received, and carries what its load was given. -/
theorem of_compile {kinds : Kinds} {serial : Nat} {id : String} {stamp : Nat}
    {reply : Except StoreError (Option Definition)} {made : Instance}
    (success : compile kinds serial id stamp reply = .ok made) :
    made.serial = serial ∧ made.id = id ∧ made.stamp = stamp ∧
      reply = .ok (some made.definition) ∧ kinds.load id made.definition = .ok made.rewriter := by
  unfold compile at success
  split at success
  · cases success
  · cases success
  · rename_i definition
    split at success
    · rename_i rewriter loaded
      cases success
      exact ⟨rfl, rfl, rfl, rfl, loaded⟩
    · cases success

/-- Nothing but a missing definition is not found. -/
theorem eq_none_of_compile {kinds : Kinds} {serial : Nat} {id key : String} {stamp : Nat}
    {reply : Except StoreError (Option Definition)}
    (fails : compile kinds serial id stamp reply = .error (.notFound key)) : reply = .ok none := by
  unfold compile at fails
  split at fails
  · rename_i e
    cases e <;> cases fails
  · rfl
  · split at fails <;> cases fails

theorem compile_error (kinds : Kinds) (serial : Nat) (id : String) (stamp : Nat) (e : StoreError)
    (made : Instance) : compile kinds serial id stamp (.error e) ≠ .ok made := by
  intro success
  cases success

end Instance

/-! ## Lookups -/

/-- A step of a lookup of `id`. -/
inductive Lookup.Transition (kinds : Kinds) (id : String) (store : Store) (cache : PartitionCache) :
    Lookup → Lookup × Store × PartitionCache → Prop where
  | found {tries made} (held : cache.get? id = some made) :
      Transition kinds id store cache (.seeking tries) (.verifying tries made, store, cache)
  | joined {tries serial} (missing : cache.get? id = none)
      (running : cache.loading? id = some serial) :
      Transition kinds id store cache (.seeking tries) (.waiting tries serial, store, cache)
  | begun {tries} (missing : cache.get? id = none) (idle : cache.loading? id = none) :
      Transition kinds id store cache (.seeking tries)
        (.loading tries cache.nextSerial .starting, store, (cache.beginLoad id).2)
  | waits {tries serial} :
      Transition kinds id store cache (.waiting tries serial) (.waiting tries serial, store, cache)
  | moved {tries serial load after counted} (unanswered : load.hasReply = false)
      (moves : load.Transition id cache.marks.clock store (after, counted)) :
      Transition kinds id store cache (.loading tries serial load)
        (.loading tries serial after, counted, cache)
  | compiled {tries serial stamp reply made}
      (success : Instance.compile kinds serial id stamp reply = .ok made) :
      Transition kinds id store cache (.loading tries serial (.replied stamp reply))
        (.landing tries made, store, cache)
  | failed {tries serial stamp reply e}
      (failure : Instance.compile kinds serial id stamp reply = .error e) :
      Transition kinds id store cache (.loading tries serial (.replied stamp reply))
        (.publishing tries serial (.error e), store, cache)
  | landed {tries made} :
      Transition kinds id store cache (.landing tries made)
        (.publishing tries made.serial (.ok made), store, cache.insert made)
  | published {tries serial made} :
      Transition kinds id store cache (.publishing tries serial (.ok made))
        (.verifying tries made, store, cache.endLoad id)
  | reported {tries serial e} :
      Transition kinds id store cache (.publishing tries serial (.error e))
        (.answered (.error e), store, cache.endLoad id)
  | confirmed {tries found} (fresh : cache.isStale found = false) :
      Transition kinds id store cache (.verifying tries found) (.answered (.ok found), store, cache)
  | outdated {tries found} (stale : cache.isStale found = true) :
      Transition kinds id store cache (.verifying tries found)
        (.discarding tries found, store, cache)
  | exhausted {tries found} (last : tries ≤ 1) :
      Transition kinds id store cache (.discarding tries found)
        (.answered (.error (.keptChanging id)), store, cache.discard found)
  | retried {tries found} (more : ¬ tries ≤ 1) :
      Transition kinds id store cache (.discarding tries found)
        (.seeking (tries - 1), store, cache.discard found)
  | ended {outcome} :
      Transition kinds id store cache (.answered outcome) (.answered outcome, store, cache)

/-- Every step of a lookup is one of these. -/
theorem Lookup.transition_step (kinds : Kinds) (id : String) (lookup : Lookup) (store : Store)
    (cache : PartitionCache) :
    lookup.Transition kinds id store cache (lookup.step kinds id store cache) := by
  cases lookup with
  | seeking tries =>
      simp only [step]
      split
      · rename_i held
        exact .found held
      · rename_i missing running
        exact .joined missing running
      · rename_i missing idle
        exact .begun missing idle
  | waiting tries serial => exact .waits
  | loading tries serial load =>
      cases load with
      | replied stamp reply =>
          simp only [step]
          split
          · rename_i success
            exact .compiled success
          · rename_i failure
            exact .failed failure
      | _ => exact .moved rfl (Load.transition_step rfl ..)
  | landing tries made => exact .landed
  | publishing tries serial outcome =>
      cases outcome with
      | ok made => exact .published
      | error e => exact .reported
  | verifying tries found =>
      cases stale : cache.isStale found with
      | true =>
          simp only [step, stale, if_true]
          exact .outdated stale
      | false =>
          simp only [step, stale, Bool.false_eq_true, if_false]
          exact .confirmed stale
  | discarding tries found =>
      simp only [step, retry]
      split
      · rename_i last
        exact .exhausted last
      · rename_i more
        exact .retried more
  | answered outcome => exact .ended

/-! ## Reloads -/

/-- A step of a reload of `id`. -/
inductive Reload.Transition (kinds : Kinds) (id : String) (store : Store) (cache : PartitionCache) :
    Reload → Reload × Store × PartitionCache → Prop where
  | begun (held : cache.contains id = true) :
      Transition kinds id store cache .checking
        (.loading cache.nextSerial .starting, store, cache.takeSerial.2)
  | missed (missing : cache.contains id = false) :
      Transition kinds id store cache .checking (.marking, store, cache)
  | marked :
      Transition kinds id store cache .marking (.answered (.ok false), store, cache.mark id)
  | moved {serial load after counted} (unanswered : load.hasReply = false)
      (moves : load.Transition id cache.marks.clock store (after, counted)) :
      Transition kinds id store cache (.loading serial load) (.loading serial after, counted, cache)
  | compiled {serial stamp reply made}
      (success : Instance.compile kinds serial id stamp reply = .ok made) :
      Transition kinds id store cache (.loading serial (.replied stamp reply))
        (.comparing made, store, cache)
  | vanished {serial stamp reply name}
      (gone : Instance.compile kinds serial id stamp reply = .error (.notFound name)) :
      Transition kinds id store cache (.loading serial (.replied stamp reply))
        (.forgetting, store, cache)
  | failed {serial stamp reply e}
      (failure : Instance.compile kinds serial id stamp reply = .error e)
      (other : ∀ name, e ≠ .notFound name) :
      Transition kinds id store cache (.loading serial (.replied stamp reply))
        (.answered (.error e), store, cache)
  | outdated {made} (stale : cache.isStale made = true) :
      Transition kinds id store cache (.comparing made) (.answered (.ok true), store, cache)
  | passed {made} (fresh : cache.isStale made = false) :
      Transition kinds id store cache (.comparing made) (.installing made, store, cache)
  | installed {made} :
      Transition kinds id store cache (.installing made)
        (.rechecking made, store, cache.insert made)
  | confirmed {made} (fresh : cache.isStale made = false) :
      Transition kinds id store cache (.rechecking made) (.answered (.ok true), store, cache)
  | overtaken {made} (stale : cache.isStale made = true) :
      Transition kinds id store cache (.rechecking made) (.retracting made, store, cache)
  | retracted {made} :
      Transition kinds id store cache (.retracting made)
        (.answered (.ok true), store, cache.discard made)
  | forgotten :
      Transition kinds id store cache .forgetting (.removing, store, cache.mark id)
  | removed :
      Transition kinds id store cache .removing (.answered (.ok true), store, cache.remove id)
  | ended {outcome} :
      Transition kinds id store cache (.answered outcome) (.answered outcome, store, cache)

/-- Every step of a reload is one of these. -/
theorem Reload.transition_step (kinds : Kinds) (id : String) (reload : Reload) (store : Store)
    (cache : PartitionCache) :
    reload.Transition kinds id store cache (reload.step kinds id store cache) := by
  cases reload with
  | checking =>
      cases held : cache.contains id with
      | true =>
          simp only [step, held, if_true]
          exact .begun held
      | false =>
          simp only [step, held, Bool.false_eq_true, if_false]
          exact .missed held
  | marking => exact .marked
  | loading serial load =>
      cases load with
      | replied stamp reply =>
          simp only [step]
          cases outcome : Instance.compile kinds serial id stamp reply with
          | ok made => exact .compiled outcome
          | error e =>
              cases e with
              | notFound name => exact .vanished outcome
              | _ => exact .failed outcome (by simp)
      | _ => exact .moved rfl (Load.transition_step rfl ..)
  | comparing made =>
      cases stale : cache.isStale made with
      | true =>
          simp only [step, stale, if_true]
          exact .outdated stale
      | false =>
          simp only [step, stale, Bool.false_eq_true, if_false]
          exact .passed stale
  | installing made => exact .installed
  | rechecking made =>
      cases stale : cache.isStale made with
      | true =>
          simp only [step, stale, if_true]
          exact .overtaken stale
      | false =>
          simp only [step, stale, Bool.false_eq_true, if_false]
          exact .confirmed stale
  | retracting made => exact .retracted
  | forgetting => exact .forgotten
  | removing => exact .removed
  | answered outcome => exact .ended

/-! ## Calls of any sort -/

/-- A step of a call. -/
inductive Call.Transition (kinds : Kinds) (store : Store) (cache : PartitionCache) :
    Call → Call × Store × PartitionCache → Prop where
  | lookup {id phase next after left}
      (moves : phase.Transition kinds id store cache (next, after, left)) :
      Transition kinds store cache (.lookup id phase) (.lookup id next, after, left)
  | reload {id phase next after left}
      (moves : phase.Transition kinds id store cache (next, after, left)) :
      Transition kinds store cache (.reload id phase) (.reload id next, after, left)
  | marked {id} :
      Transition kinds store cache (.invalidation (some id) .marking)
        (.invalidation (some id) .removing, store, cache.mark id)
  | allMarked :
      Transition kinds store cache (.invalidation none .marking)
        (.invalidation none .removing, store, cache.markAll)
  | removed {id} :
      Transition kinds store cache (.invalidation (some id) .removing)
        (.invalidation (some id) (.answered (cache.occupies id)), store, cache.remove id)
  | allRemoved :
      Transition kinds store cache (.invalidation none .removing)
        (.invalidation none (.answered (!cache.entries.isEmpty)), store, cache.clear)
  | ended {id? held} :
      Transition kinds store cache (.invalidation id? (.answered held))
        (.invalidation id? (.answered held), store, cache)
  | cancelled : Transition kinds store cache .cancelled (.cancelled, store, cache)

/-- Every step of a call is one of these. -/
theorem Call.transition_step (kinds : Kinds) (call : Call) (store : Store)
    (cache : PartitionCache) :
    call.Transition kinds store cache (call.step kinds store cache) := by
  cases call with
  | lookup id phase => exact .lookup (Lookup.transition_step ..)
  | reload id phase => exact .reload (Reload.transition_step ..)
  | invalidation id? phase =>
      cases phase with
      | marking =>
          cases id? with
          | some id => exact .marked
          | none => exact .allMarked
      | removing =>
          cases id? with
          | some id => exact .removed
          | none => exact .allRemoved
      | answered held => cases id? <;> exact .ended
  | cancelled => exact .cancelled

end QueryRewriting
