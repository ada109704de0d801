import QueryRewriting.Cache.Partition

/-! # Calls on the cache of a partition

A lookup, a reload and an invalidation are sequences of undivided steps, and the steps of other
calls may come between them. Each call is described by what it is about to do next; a call that is
answered takes no more steps. `run` is the call that nothing disturbs. -/

namespace QueryRewriting

/-- How long the store takes to come to a read, and then to answer it. -/
structure Delays where
  toRead : Nat
  toReply : Nat
  deriving Repr

/-- A store that takes no time. -/
def Delays.none : Delays := { toRead := 0, toReply := 0 }

/-! ## Loads -/

/-- How far a load has come: it notes the partition's clock, asks the store, which reads and
replies, and is then ready to be compiled. -/
inductive Load where
  | starting
  | asking (stamp : Nat)
  | reading (stamp : Nat)
  | replied (stamp : Nat) (reply : Except StoreError (Option Definition))

namespace Load

/-- A step of a load. A store that is out of order replies at once. -/
def step (id : String) (clock : Nat) (store : Store) : Load → Load × Store
  | .starting => (.asking clock, store)
  | .asking stamp =>
    match store.beginRead with
    | .ok counted => (.reading stamp, counted)
    | .error e => (.replied stamp (.error e), store)
  | .reading stamp => (.replied stamp (store.find? id), store)
  | .replied stamp reply => (.replied stamp reply, store)

/-- Whether the store has replied. -/
def hasReply : Load → Bool
  | .replied _ _ => true
  | _ => false

/-- The time that passes before the next step. Errors are reported without delay. -/
def delay (delays : Delays) : Load → Nat
  | .reading _ => delays.toRead
  | .replied _ (.ok _) => delays.toReply
  | _ => 0

end Load

/-! ## Lookups -/

/-- How far a lookup has come. `tries` counts how often it may look, this time included. A lookup
that finds nothing loads the rewriter itself, or waits for the load under way. An instance that was
invalidated after it was read is dropped, and the lookup begins again. -/
inductive Lookup where
  | seeking (tries : Nat)
  | waiting (tries serial : Nat)
  | loading (tries serial : Nat) (load : Load)
  | landing (tries : Nat) (made : Instance)
  | publishing (tries serial : Nat) (outcome : Except LoadError Instance)
  | verifying (tries : Nat) (found : Instance)
  | discarding (tries : Nat) (found : Instance)
  | answered (outcome : Except LoadError Instance)

namespace Lookup

/-- How often a lookup looks before it gives up. -/
def maxTries : Nat := 4

/-- A lookup that has yet to look for the first time. -/
def start : Lookup := .seeking maxTries

/-- How a lookup goes on with the outcome of a load, its own or the one that it waited for. -/
def receive (tries : Nat) : Except LoadError Instance → Lookup
  | .ok made => .verifying tries made
  | .error e => .answered (.error e)

/-- How a lookup goes on after it has dropped an instance. -/
def retry (id : String) (tries : Nat) : Lookup :=
  if tries ≤ 1 then .answered (.error (.keptChanging id)) else .seeking (tries - 1)

/-- A step of a lookup. One that waits, or that is answered, stays as it is. -/
def step (kinds : Kinds) (id : String) (lookup : Lookup) (store : Store) (cache : PartitionCache) :
    Lookup × Store × PartitionCache :=
  match lookup with
  | .seeking tries =>
    match cache.get? id, cache.loading? id with
    | some found, _ => (.verifying tries found, store, cache)
    | none, some serial => (.waiting tries serial, store, cache)
    | none, none =>
      let (serial, cache) := cache.beginLoad id
      (.loading tries serial .starting, store, cache)
  | .waiting _ _ => (lookup, store, cache)
  | .loading tries serial (.replied stamp reply) =>
    match Instance.compile kinds serial id stamp reply with
    | .ok made => (.landing tries made, store, cache)
    | .error e => (.publishing tries serial (.error e), store, cache)
  | .loading tries serial load =>
    let (load, store) := load.step id cache.marks.clock store
    (.loading tries serial load, store, cache)
  -- What was made is held before those who wait for it are told.
  | .landing tries made =>
    (.publishing tries made.serial (.ok made), store, cache.insert made)
  | .publishing tries _ outcome => (receive tries outcome, store, cache.endLoad id)
  | .verifying tries found =>
    (if cache.isStale found then .discarding tries found else .answered (.ok found), store, cache)
  | .discarding tries found => (retry id tries, store, cache.discard found)
  | .answered _ => (lookup, store, cache)

/-- Whether the store has replied to the load of a lookup. -/
def hasReply : Lookup → Bool
  | .loading _ _ load => load.hasReply
  | _ => false

/-- The time that passes before the next step, which only a load takes. -/
def delay (delays : Delays) : Lookup → Nat
  | .loading _ _ load => load.delay delays
  | _ => 0

/-- The answer of a lookup. One that waits without end has none. -/
def outcome (id : String) : Lookup → Except LoadError Instance
  | .answered outcome => outcome
  | _ => .error (.keptChanging id)

/-- A lookup that is not held up is answered after so many steps: nine for each time it looks. -/
def maxSteps : Nat := 9 * maxTries

/-- Lets a lookup take so many steps. -/
def run (kinds : Kinds) (id : String) :
    Nat → Lookup → Store → PartitionCache → Lookup × Store × PartitionCache
  | 0, lookup, store, cache => (lookup, store, cache)
  | fuel + 1, lookup, store, cache =>
    let (lookup, store, cache) := lookup.step kinds id store cache
    run kinds id fuel lookup store cache

end Lookup

/-! ## Reloads -/

/-- How far a reload has come. What the partition does not hold is not loaded, but loads of it that
are under way may have read an old definition, so its id is marked. A renewed instance takes its
place unless it was invalidated meanwhile, which is looked at before and after. A definition that is
gone is forgotten; after any other error the old instance stays. -/
inductive Reload where
  | checking
  | marking
  | loading (serial : Nat) (load : Load)
  | comparing (made : Instance)
  | installing (made : Instance)
  | rechecking (made : Instance)
  | retracting (made : Instance)
  | forgetting
  | removing
  | answered (outcome : Except LoadError Bool)

namespace Reload

/-- How a reload goes on with what its load has come to. -/
def receive : Except LoadError Instance → Reload
  | .ok made => .comparing made
  | .error (.notFound _) => .forgetting
  | .error e => .answered (.error e)

/-- A step of a reload. One that is answered stays as it is. -/
def step (kinds : Kinds) (id : String) (reload : Reload) (store : Store) (cache : PartitionCache) :
    Reload × Store × PartitionCache :=
  match reload with
  | .checking =>
    if cache.contains id then
      let (serial, cache) := cache.takeSerial
      (.loading serial .starting, store, cache)
    else (.marking, store, cache)
  | .marking => (.answered (.ok false), store, cache.mark id)
  | .loading serial (.replied stamp reply) =>
    (receive (Instance.compile kinds serial id stamp reply), store, cache)
  | .loading serial load =>
    let (load, store) := load.step id cache.marks.clock store
    (.loading serial load, store, cache)
  -- What was marked since it was read is not put in; what is marked later is taken out again.
  | .comparing made =>
    (if cache.isStale made then .answered (.ok true) else .installing made, store, cache)
  | .installing made => (.rechecking made, store, cache.insert made)
  | .rechecking made =>
    (if cache.isStale made then .retracting made else .answered (.ok true), store, cache)
  | .retracting made => (.answered (.ok true), store, cache.discard made)
  | .forgetting => (.removing, store, cache.mark id)
  | .removing => (.answered (.ok true), store, cache.remove id)
  | .answered _ => (reload, store, cache)

/-- Whether the store has replied to the load of a reload. -/
def hasReply : Reload → Bool
  | .loading _ load => load.hasReply
  | _ => false

/-- The time that passes before the next step, which only a load takes. -/
def delay (delays : Delays) : Reload → Nat
  | .loading _ load => load.delay delays
  | _ => 0

/-- The answer of a reload: whether the partition held the id. -/
def outcome : Reload → Except LoadError Bool
  | .answered outcome => outcome
  | _ => .ok true

/-- Every reload is answered after so many steps. -/
def maxSteps : Nat := 9

/-- Lets a reload take so many steps. -/
def run (kinds : Kinds) (id : String) :
    Nat → Reload → Store → PartitionCache → Reload × Store × PartitionCache
  | 0, reload, store, cache => (reload, store, cache)
  | fuel + 1, reload, store, cache =>
    let (reload, store, cache) := reload.step kinds id store cache
    run kinds id fuel reload store cache

end Reload

/-! ## Invalidations -/

/-- How far an invalidation has come: it marks before it drops, and answers whether there was
something to drop. -/
inductive Invalidation where
  | marking
  | removing
  | answered (held : Bool)

namespace Invalidation

/-- A step of the invalidation of an id, or of all. -/
def step (id? : Option String) (invalidation : Invalidation) (cache : PartitionCache) :
    Invalidation × PartitionCache :=
  match invalidation, id? with
  | .marking, some id => (.removing, cache.mark id)
  | .marking, none => (.removing, cache.markAll)
  | .removing, some id => (.answered (cache.occupies id), cache.remove id)
  | .removing, none => (.answered (!cache.entries.isEmpty), cache.clear)
  | .answered held, _ => (.answered held, cache)

end Invalidation

/-! ## Calls that nothing disturbs -/

namespace PartitionCache

/-- The instance of an id, loaded if the cache holds none. -/
def lookup (kinds : Kinds) (id : String) (store : Store) (cache : PartitionCache) :
    Except LoadError Instance × Store × PartitionCache :=
  let (phase, store, cache) := Lookup.run kinds id Lookup.maxSteps .start store cache
  (phase.outcome id, store, cache)

/-- Renews the instance of an id; answers whether the cache held one. -/
def reload (kinds : Kinds) (id : String) (store : Store) (cache : PartitionCache) :
    Except LoadError Bool × Store × PartitionCache :=
  let (phase, store, cache) := Reload.run kinds id Reload.maxSteps .checking store cache
  (phase.outcome, store, cache)

/-- Drops the instance of an id and marks it; answers whether there was something to remove. -/
def invalidate (id : String) (cache : PartitionCache) : Bool × PartitionCache :=
  (cache.occupies id, (cache.mark id).remove id)

/-- Drops and marks everything. -/
def invalidateAll (cache : PartitionCache) : PartitionCache := cache.markAll.clear

end PartitionCache

/-! ## Calls of any sort -/

/-- A call on the cache of a partition. One that was dropped before its answer is cancelled. -/
inductive Call where
  | lookup (id : String) (phase : Lookup)
  | reload (id : String) (phase : Reload)
  | invalidation (id? : Option String) (phase : Invalidation)
  | cancelled

/-- What a partition can be asked for. -/
inductive Request where
  | lookup (id : String)
  | reload (id : String)
  | invalidate (id : String)
  | invalidateAll
  deriving DecidableEq, Repr

namespace Call

/-- The call that a request begins. -/
def start : Request → Call
  | .lookup id => .lookup id .start
  | .reload id => .reload id .checking
  | .invalidate id => .invalidation (some id) .marking
  | .invalidateAll => .invalidation none .marking

/-- A step of a call. One that was cancelled takes none. -/
def step (kinds : Kinds) (call : Call) (store : Store) (cache : PartitionCache) :
    Call × Store × PartitionCache :=
  match call with
  | .lookup id phase =>
    let (phase, store, cache) := phase.step kinds id store cache
    (.lookup id phase, store, cache)
  | .reload id phase =>
    let (phase, store, cache) := phase.step kinds id store cache
    (.reload id phase, store, cache)
  | .invalidation id? phase =>
    let (phase, cache) := phase.step id? cache
    (.invalidation id? phase, store, cache)
  | .cancelled => (.cancelled, store, cache)

/-- Whether the store has replied to the load of a call. -/
def hasReply : Call → Bool
  | .lookup _ phase => phase.hasReply
  | .reload _ phase => phase.hasReply
  | _ => false

/-- The time that passes before the next step of a call. -/
def delay (delays : Delays) : Call → Nat
  | .lookup _ phase => phase.delay delays
  | .reload _ phase => phase.delay delays
  | _ => 0

/-- The load that a call is about to end, with the outcome for those who wait for it. -/
def published? : Call → Option (Nat × Except LoadError Instance)
  | .lookup _ (.publishing _ serial outcome) => some (serial, outcome)
  | _ => none

/-- Hands the outcome of a load to a call that waits for it. -/
def deliver (serial : Nat) (outcome : Except LoadError Instance) : Call → Call
  | .lookup id (.waiting tries awaited) =>
    if awaited = serial then .lookup id (.receive tries outcome)
    else .lookup id (.waiting tries awaited)
  | call => call

/-- The load that ends without an outcome when a call is dropped. -/
def abandoned? : Call → Option (String × Nat)
  | .lookup id (.loading _ serial _) => some (id, serial)
  | .lookup id (.landing _ made) => some (id, made.serial)
  | .lookup id (.publishing _ serial _) => some (id, serial)
  | _ => none

/-- Lets a call that waits for an abandoned load look again. -/
def release (serial : Nat) : Call → Call
  | .lookup id (.waiting tries awaited) =>
    if awaited = serial then .lookup id (.seeking tries) else .lookup id (.waiting tries awaited)
  | call => call

end Call

end QueryRewriting
