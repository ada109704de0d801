import QueryRewriting.Cache.Call
import QueryRewriting.Settings

/-! # The partitions of a node

A node opens the cache of a partition when it is first asked for, as long as it serves fewer
partitions than its settings allow, and closes it when it is told to. A closed cache is emptied, but
calls that still hold it can go on. A reload visits the open partitions one after the other.
-/

namespace QueryRewriting

/-- A partition that cannot be opened because the node serves as many as it may. -/
structure PartitionLimit where
  partition : Partition
  limit : Nat
  deriving DecidableEq, Repr

/-- What is said when there is no room for one more partition. -/
def PartitionLimit.message (e : PartitionLimit) : String :=
  s!"Partition {e.partition.name} is not open and the node already serves {e.limit} partitions."

/-- The caches of a node. Each cache ever opened keeps its place in the list, by which it is held;
`opened` tells which of them serve a partition now. -/
structure Registry where
  kinds : Kinds
  settings : CacheSettings
  caches : List PartitionCache
  opened : List (Partition × Nat)

namespace Registry

/-- A node that serves no partition yet. -/
def empty (kinds : Kinds) (settings : CacheSettings) : Registry :=
  { kinds, settings, caches := [], opened := [] }

/-! ## Opening and closing -/

/-- The handle under which a partition is open. -/
def find? (registry : Registry) (partition : Partition) : Option Nat :=
  registry.opened.lookup partition

/-- The cache of a handle, whether its partition is still open or not. -/
def cache? (registry : Registry) (handle : Nat) : Option PartitionCache :=
  registry.caches[handle]?

/-- Puts a cache in the place of the one held there. -/
def setCache (registry : Registry) (handle : Nat) (cache : PartitionCache) : Registry :=
  { registry with caches := registry.caches.set handle cache }

/-- Opens a partition with an empty cache, without asking whether there is room. -/
def create (registry : Registry) (partition : Partition) : Nat × Registry :=
  (registry.caches.length, { registry with
    caches := registry.caches ++ [.empty partition registry.settings.maxBytes]
    opened := registry.opened ++ [(partition, registry.caches.length)] })

/-- The handle of a partition, which is opened if it is not open. -/
def getOrCreate (registry : Registry) (partition : Partition) : Nat × Registry :=
  match registry.find? partition with
  | some handle => (handle, registry)
  | none => registry.create partition

/-- The limit of a node that serves as many partitions as it may. -/
def full? (registry : Registry) : Option Nat :=
  match registry.settings.maxPartitions with
  | some limit => if limit ≤ registry.opened.length then some limit else none
  | none => none

/-- The cache of a partition, opened if need be and if there is room for one more. -/
def serve (registry : Registry) (partition : Partition) :
    Except PartitionLimit (Nat × Registry) :=
  match registry.find? partition with
  | some handle => .ok (handle, registry)
  | none =>
    match registry.full? with
    | some limit => .error { partition, limit }
    | none => .ok (registry.create partition)

/-- Takes a partition off the list of those served. -/
def withdraw (registry : Registry) (partition : Partition) : Registry :=
  { registry with opened := registry.opened.filter (·.1 ≠ partition) }

/-- Drops and marks everything in the cache of a handle. -/
def clearAt (registry : Registry) (handle : Nat) : Registry :=
  match registry.cache? handle with
  | some cache => registry.setCache handle cache.invalidateAll
  | none => registry

/-- Closes a partition; answers whether it was open. -/
def close (registry : Registry) (partition : Partition) : Bool × Registry :=
  match registry.find? partition with
  | some handle => (true, (registry.withdraw partition).clearAt handle)
  | none => (false, registry)

/-- The partitions that are open, in order. -/
def partitions (registry : Registry) : List Partition :=
  (registry.opened.map (·.1)).mergeSort Partition.le

/-- Where the caches of the open partitions are held. -/
def handles (registry : Registry) : List Nat := registry.opened.map (·.2)

/-! ## Calls -/

/-- Looks up an instance in the cache held at a place. -/
def lookup (registry : Registry) (handle : Nat) (id : String) (store : Store) :
    Except LoadError Instance × Store × Registry :=
  match registry.cache? handle with
  | none => (.error (.notFound id), store, registry)
  | some cache =>
    let (outcome, store, cache) := cache.lookup registry.kinds id store
    (outcome, store, registry.setCache handle cache)

/-- Drops the instance of an id in the caches held at some places; answers in how many there
was something to remove. -/
def invalidateAt (id : String) (registry : Registry) : List Nat → Nat × Registry
  | [] => (0, registry)
  | handle :: rest =>
    match registry.cache? handle with
    | none => invalidateAt id registry rest
    | some cache =>
      let (held, cache) := cache.invalidate id
      let (count, registry) := invalidateAt id (registry.setCache handle cache) rest
      (if held then count + 1 else count, registry)

/-- Drops the instance of an id on every open partition; answers in how many there
was something to remove. -/
def invalidate (registry : Registry) (id : String) : Nat × Registry :=
  invalidateAt id registry registry.handles

/-- Drops every instance on every open partition; answers how many partitions there are. -/
def invalidateAll (registry : Registry) : Nat × Registry :=
  (registry.opened.length, registry.handles.foldl clearAt registry)

end Registry

/-! ## Sweeps -/

/-- A reload on its way through the partitions: those still to visit, what is done at the first of
them, how many held the id so far, and the first error. -/
structure Sweep where
  id : String
  pending : List Nat
  phase : Reload
  renewed : Nat
  failure : Option LoadError

namespace Sweep

/-- A sweep that has yet to visit the first of its partitions. -/
def start (id : String) (handles : List Nat) : Sweep :=
  { id, pending := handles, phase := .checking, renewed := 0, failure := none }

/-- Goes on to the next partition with the outcome of the visit that ends. -/
def account (sweep : Sweep) (rest : List Nat) : Except LoadError Bool → Sweep
  | .ok held =>
    { sweep with
      pending := rest, phase := .checking, renewed := sweep.renewed + if held then 1 else 0 }
  | .error e =>
    { sweep with pending := rest, phase := .checking, failure := sweep.failure.or (some e) }

/-- A step of a sweep: one of the reload in the partition that it visits, or the passage to the next
one. -/
def step (sweep : Sweep) (store : Store) (registry : Registry) : Sweep × Store × Registry :=
  match sweep.pending with
  | [] => (sweep, store, registry)
  | handle :: rest =>
    match sweep.phase, registry.cache? handle with
    | .answered outcome, _ => (sweep.account rest outcome, store, registry)
    | _, none => (sweep.account rest (.ok false), store, registry)
    | phase, some cache =>
      let (phase, store, cache) := phase.step registry.kinds sweep.id store cache
      ({ sweep with phase }, store, registry.setCache handle cache)

/-- The time that passes before the next step, which only a load takes. -/
def delay (delays : Delays) (sweep : Sweep) : Nat :=
  if sweep.pending.isEmpty then 0 else sweep.phase.delay delays

/-- The answer of a sweep: how many partitions held the id, or the first error. -/
def outcome (sweep : Sweep) : Except LoadError Nat :=
  match sweep.failure with
  | some e => .error e
  | none => .ok sweep.renewed

/-- A sweep over so many partitions ends after so many steps. -/
def maxSteps (partitions : Nat) : Nat := (Reload.maxSteps + 1) * partitions

/-- Lets a sweep take so many steps. -/
def run : Nat → Sweep → Store → Registry → Sweep × Store × Registry
  | 0, sweep, store, registry => (sweep, store, registry)
  | fuel + 1, sweep, store, registry =>
    let (sweep, store, registry) := sweep.step store registry
    run fuel sweep store registry

/-- How many of up to `fuel` steps fit into the time that is left. -/
def stepsWithin (delays : Delays) : Nat → Nat → Sweep → Store → Registry → Nat
  | 0, _, _, _, _ => 0
  | fuel + 1, left, sweep, store, registry =>
    if left < sweep.delay delays then 0
    else
      let (next, store, registry) := sweep.step store registry
      1 + stepsWithin delays fuel (left - sweep.delay delays) next store registry

end Sweep

namespace Registry

/-- Renews an id on every open partition that holds it. -/
def reload (registry : Registry) (id : String) (store : Store) :
    Except LoadError Nat × Store × Registry :=
  let handles := registry.handles
  let (sweep, store, registry) :=
    Sweep.run (Sweep.maxSteps handles.length) (.start id handles) store registry
  (sweep.outcome, store, registry)

/-- Renews an id as far as the time allows; a sweep that is cut off has no outcome. -/
def reloadWithin (delays : Delays) (time : Nat) (registry : Registry) (id : String)
    (store : Store) : Option (Except LoadError Nat) × Store × Registry :=
  let start := Sweep.start id registry.handles
  let steps := Sweep.stepsWithin delays (Sweep.maxSteps registry.handles.length) time start store
    registry
  let (sweep, store, registry) := Sweep.run steps start store registry
  (if sweep.pending.isEmpty then some sweep.outcome else none, store, registry)

end Registry

end QueryRewriting
