import QueryRewriting.Cache.Interleaving
import QueryRewriting.Proofs.Cache.Marks
import QueryRewriting.Proofs.Cache.Partition
import QueryRewriting.Proofs.Cache.Transitions

/-! # What one step of a call does

The next step of a call decides by itself which ids it marks, which instance it puts into the cache
and which load it moves on. The lemmas below say so for each part of a workload; whatever holds of a
whole run is derived from them.
-/

namespace QueryRewriting

namespace Call

/-! ## What a call is about -/

/-- The id that a lookup or a reload was asked for. -/
def subject? : Call → Option String
  | .lookup id _ => some id
  | .reload id _ => some id
  | _ => none

/-- The load that a call carries out: its id, its serial number and how far it has come. -/
def load? : Call → Option (String × Nat × Load)
  | .lookup id (.loading _ serial load) => some (id, serial, load)
  | .reload id (.loading serial load) => some (id, serial, load)
  | _ => none

/-- The ids that the next step of a call marks: one, or all of them. -/
def marking? : Call → Option (Option String)
  | .reload id .marking => some (some id)
  | .reload id .forgetting => some (some id)
  | .invalidation id? .marking => some id?
  | _ => none

/-- The instance that the next step of a call puts into the cache. -/
def installs? : Call → Option Instance
  | .lookup _ (.landing _ made) => some made
  | .reload _ (.installing made) => some made
  | _ => none

/-- The instance that the next step of a call drops from the cache, if it is still there. -/
def discards? : Call → Option Instance
  | .lookup _ (.discarding _ found) => some found
  | .reload _ (.retracting made) => some made
  | _ => none

/-- The ids that the next step of a call removes from the cache: one, or all of them. -/
def removing? : Call → Option (Option String)
  | .reload id .removing => some (some id)
  | .invalidation id? .removing => some id?
  | _ => none

/-- The instance that a call holds in its hands. -/
def instance? : Call → Option Instance
  | .lookup _ (.landing _ made) => some made
  | .lookup _ (.publishing _ _ (.ok made)) => some made
  | .lookup _ (.verifying _ found) => some found
  | .lookup _ (.discarding _ found) => some found
  | .lookup _ (.answered (.ok found)) => some found
  | .reload _ (.comparing made) => some made
  | .reload _ (.installing made) => some made
  | .reload _ (.rechecking made) => some made
  | .reload _ (.retracting made) => some made
  | _ => none

variable {kinds : Kinds} {store : Store} {cache : PartitionCache} {call : Call}

/-- Whoever installs an instance has it in hand. -/
theorem instance?_of_installs {made : Instance} (installing : call.installs? = some made) :
    call.instance? = some made := by
  unfold installs? at installing
  split at installing
  · exact installing
  · exact installing
  · cases installing

/-- A call never turns to another id. -/
theorem subject?_step (kinds : Kinds) (call : Call) (store : Store) (cache : PartitionCache) :
    (call.step kinds store cache).1.subject? = call.subject? := by
  cases call <;> rfl

/-! ## The cache after a step -/

/-- What the next step of a call makes of the cache, and when it does so. -/
inductive Effect (call : Call) (cache : PartitionCache) : PartitionCache → Prop where
  | kept (unmarked : call.marking? = none) : Effect call cache cache
  | loadBegun {id tries} (seeking : call = .lookup id (.seeking tries))
      (missing : cache.get? id = none) (idle : cache.loading? id = none) :
      Effect call cache (cache.beginLoad id).2
  | loadEnded {id tries serial outcome}
      (publishing : call = .lookup id (.publishing tries serial outcome)) :
      Effect call cache (cache.endLoad id)
  | reloadBegun {id} (checking : call = .reload id .checking) (held : cache.contains id = true) :
      Effect call cache cache.takeSerial.2
  | marked {id} (marking : call.marking? = some (some id)) : Effect call cache (cache.mark id)
  | allMarked (marking : call.marking? = some none) : Effect call cache cache.markAll
  | installed {made} (installing : call.installs? = some made) :
      Effect call cache (cache.insert made)
  | discarded {made} (discarding : call.discards? = some made) :
      Effect call cache (cache.discard made)
  | removed {id} (removing : call.removing? = some (some id)) : Effect call cache (cache.remove id)
  | cleared (removing : call.removing? = some none) : Effect call cache cache.clear

/-- What a step makes of the cache. -/
theorem effect_step (kinds : Kinds) (call : Call) (store : Store) (cache : PartitionCache) :
    call.Effect cache (call.step kinds store cache).2.2 := by
  have moves := transition_step kinds call store cache
  generalize call.step kinds store cache = result at moves ⊢
  cases moves with
  | lookup moves =>
      cases moves with
      | begun missing idle => exact .loadBegun rfl missing idle
      | landed => exact .installed rfl
      | published => exact .loadEnded rfl
      | reported => exact .loadEnded rfl
      | exhausted => exact .discarded rfl
      | retried => exact .discarded rfl
      | _ => exact .kept rfl
  | reload moves =>
      cases moves with
      | begun held => exact .reloadBegun rfl held
      | marked => exact .marked rfl
      | installed => exact .installed rfl
      | retracted => exact .discarded rfl
      | forgotten => exact .marked rfl
      | removed => exact .removed rfl
      | _ => exact .kept rfl
  | marked => exact .marked rfl
  | allMarked => exact .allMarked rfl
  | removed => exact .removed rfl
  | allRemoved => exact .cleared rfl
  | _ => exact .kept rfl

/-- From the step that marks an id on, the id counts as invalidated. -/
theorem invalidatedSince_step {id : String} {stamp : Nat}
    (marking : call.marking? = some (some id) ∨ call.marking? = some none)
    (known : stamp ≤ cache.marks.clock) :
    (call.step kinds store cache).2.2.marks.invalidatedSince id stamp = true := by
  rcases marking with one | all
  · unfold marking? at one
    split at one
    · cases one
      exact Marks.invalidatedSince_mark_self known
    · cases one
      exact Marks.invalidatedSince_mark_self known
    · cases one
      exact Marks.invalidatedSince_mark_self known
    · cases one
  · unfold marking? at all
    split at all
    · cases all
    · cases all
    · cases all
      exact Marks.invalidatedSince_markAll known
    · cases all

/-- Only a call that installs an instance brings one into the cache. -/
theorem Effect.get? {after : PartitionCache} (effect : call.Effect cache after) {key : String}
    {made : Instance} (held : after.get? key = some made) :
    cache.get? key = some made ∨
      (call.installs? = some made ∧ key = made.id ∧ cache.maxBytes ≠ some 0) := by
  cases effect with
  | installed installing =>
      rcases PartitionCache.get?_of_insert held with before | ⟨same, rfl, room⟩
      · exact Or.inl before
      · exact Or.inr ⟨installing, same, room⟩
  | discarded => exact Or.inl (PartitionCache.get?_of_discard held)
  | removed => exact Or.inl (PartitionCache.get?_of_remove held)
  | cleared => cases held
  | _ => exact Or.inl held

/-- No step changes how much room a cache has. -/
theorem Effect.maxBytes {after : PartitionCache} (effect : call.Effect cache after) :
    after.maxBytes = cache.maxBytes := by
  cases effect with
  | installed => exact PartitionCache.maxBytes_insert ..
  | discarded => exact PartitionCache.maxBytes_discard ..
  | _ => rfl

/-- Serial numbers are given out in order. -/
theorem Effect.nextSerial_le {after : PartitionCache} (effect : call.Effect cache after) :
    cache.nextSerial ≤ after.nextSerial := by
  cases effect with
  | loadBegun => exact Nat.le_succ _
  | reloadBegun => exact Nat.le_succ _
  | installed => exact (PartitionCache.nextSerial_insert ..).ge
  | discarded => exact (PartitionCache.nextSerial_discard ..).ge
  | _ => exact le_rfl

/-- No step makes a mark later than the clock. -/
theorem Effect.marks_wellFormed {after : PartitionCache} (effect : call.Effect cache after)
    (wf : cache.marks.WellFormed) : after.marks.WellFormed := by
  cases effect with
  | marked => exact wf.mark _
  | allMarked => exact Marks.wellFormed_markAll
  | installed => rwa [PartitionCache.marks_insert]
  | discarded => rwa [PartitionCache.marks_discard]
  | _ => exact wf

/-- No step forgets an invalidation. -/
theorem Effect.marks_precedes {after : PartitionCache} (effect : call.Effect cache after)
    (wf : cache.marks.WellFormed) : cache.marks.Precedes after.marks := by
  cases effect with
  | marked => exact wf.precedes_mark _
  | allMarked => exact wf.precedes_markAll
  | installed =>
      rw [PartitionCache.marks_insert]
      exact .refl _
  | discarded =>
      rw [PartitionCache.marks_discard]
      exact .refl _
  | _ => exact .refl _

/-! ## The load after a step -/

/-- A load that a call carries out has just begun, or has come one step further. -/
inductive LoadMove (kinds : Kinds) (call : Call) (store : Store) (cache : PartitionCache)
    (id : String) (serial : Nat) : Load → Prop where
  | begun (idle : call.load? = none) (subject : call.subject? = some id)
      (numbered : serial = cache.nextSerial)
      (counted : (call.step kinds store cache).2.2.nextSerial = cache.nextSerial + 1) :
      LoadMove kinds call store cache id serial .starting
  | moved (before : Load) (carries : call.load? = some (id, serial, before))
      (unanswered : before.hasReply = false) :
      LoadMove kinds call store cache id serial (before.step id cache.marks.clock store).1

/-- Where a load comes from that a call carries after a step. -/
theorem loadMove_step {id : String} {serial : Nat} {after : Load}
    (carries : (call.step kinds store cache).1.load? = some (id, serial, after)) :
    LoadMove kinds call store cache id serial after := by
  have moves := transition_step kinds call store cache
  generalize stepped : call.step kinds store cache = result at moves carries
  cases moves with
  | lookup moves =>
      cases moves with
      | begun missing idle =>
          cases carries
          exact .begun rfl rfl rfl (by rw [stepped]; rfl)
      | @moved tries serial before _ _ unanswered moves =>
          cases carries
          rw [moves.eq_step]
          exact .moved before rfl unanswered
      | _ => cases carries
  | reload moves =>
      cases moves with
      | begun held =>
          cases carries
          exact .begun rfl rfl rfl (by rw [stepped]; rfl)
      | @moved serial before _ _ unanswered moves =>
          cases carries
          rw [moves.eq_step]
          exact .moved before rfl unanswered
      | _ => cases carries
  | _ => cases carries

/-! ## The instance in hand after a step -/

/-- An instance that a call holds was in its hands before, has just been made of the store's reply,
or was found in the cache. -/
inductive InstanceMove (kinds : Kinds) (call : Call) (cache : PartitionCache) (made : Instance) :
    Prop where
  | kept (holds : call.instance? = some made)
  | compiled (id : String) (serial stamp : Nat) (reply : Except StoreError (Option Definition))
      (carries : call.load? = some (id, serial, .replied stamp reply))
      (success : Instance.compile kinds serial id stamp reply = .ok made)
  | found (id : String) (tries : Nat) (seeking : call = .lookup id (.seeking tries))
      (held : cache.get? id = some made)

/-- Where an instance comes from that a call has in hand after a step. -/
theorem instanceMove_step {made : Instance}
    (holds : (call.step kinds store cache).1.instance? = some made) :
    InstanceMove kinds call cache made := by
  have moves := transition_step kinds call store cache
  generalize call.step kinds store cache = result at moves holds
  cases moves with
  | @lookup id _ _ _ _ moves =>
      cases moves with
      | @found tries _ held =>
          cases holds
          exact .found id tries rfl held
      | compiled success =>
          cases holds
          exact .compiled _ _ _ _ rfl success
      | landed => exact .kept holds
      | published => exact .kept holds
      | confirmed => exact .kept holds
      | outdated => exact .kept holds
      | ended => exact .kept holds
      | _ => cases holds
  | reload moves =>
      cases moves with
      | compiled success =>
          cases holds
          exact .compiled _ _ _ _ rfl success
      | passed => exact .kept holds
      | installed => exact .kept holds
      | overtaken => exact .kept holds
      | _ => cases holds
  | _ => cases holds

/-- A lookup that answers with an instance did so before, or has just found that it is not stale. -/
theorem answered_of_step {id : String} {made : Instance}
    (answers : (call.step kinds store cache).1 = .lookup id (.answered (.ok made))) :
    call = .lookup id (.answered (.ok made)) ∨
      ((∃ tries, call = .lookup id (.verifying tries made)) ∧ cache.isStale made = false) := by
  have moves := transition_step kinds call store cache
  generalize call.step kinds store cache = result at moves answers
  cases moves with
  | lookup moves =>
      cases moves with
      | confirmed fresh =>
          cases answers
          exact Or.inr ⟨⟨_, rfl⟩, fresh⟩
      | ended => exact Or.inl answers
      | _ => cases answers
  | _ => cases answers

end Call

end QueryRewriting
