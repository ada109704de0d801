import QueryRewriting.Cache.Registry

/-! # Openings and closings side by side

Any number of calls open and close partitions of one node. A call holds the lock of the registry for
one step at a time, so what an opening found when it first looked may be gone when it looks again,
and the others go on while a closed cache is emptied. -/

namespace QueryRewriting

/-- How far the opening of a partition has got. -/
inductive Opening where
  /-- About to look for the partition. -/
  | looking
  /-- About to look for it once more, on a node without a limit. -/
  | relooking
  /-- About to serve it: to look for it where nobody else opens it, and to open it if there is room.
  -/
  | serving
  | answered (outcome : Except PartitionLimit Nat)

/-- How far the closing of a partition has got. -/
inductive Closing where
  | withdrawing
  /-- About to empty the cache, which serves the partition no more. -/
  | clearing (handle : Nat)
  | answered (known : Bool)

/-- A call that opens or closes a partition. -/
inductive Passage where
  | opening (partition : Partition) (phase : Opening)
  | closing (partition : Partition) (phase : Closing)

/-- The partition that is opened or closed. -/
def Passage.partition : Passage → Partition
  | .opening partition _ => partition
  | .closing partition _ => partition

/-- A step of an opening. It looks for the partition, once more if there is no limit, and then has
the registry serve it in one step. -/
def Opening.step (registry : Registry) (partition : Partition) : Opening → Opening × Registry
  | .looking =>
    match registry.find? partition, registry.settings.maxPartitions with
    | some handle, _ => (.answered (.ok handle), registry)
    | none, some _ => (.serving, registry)
    | none, none => (.relooking, registry)
  | .relooking =>
    match registry.find? partition with
    | some handle => (.answered (.ok handle), registry)
    | none => (.serving, registry)
  | .serving =>
    match registry.serve partition with
    | .ok (handle, registry) => (.answered (.ok handle), registry)
    | .error e => (.answered (.error e), registry)
  | .answered outcome => (.answered outcome, registry)

/-- A step of a closing: the partition is withdrawn first and its cache cleared after that. -/
def Closing.step (registry : Registry) (partition : Partition) : Closing → Closing × Registry
  | .withdrawing =>
    match registry.find? partition with
    | some handle => (.clearing handle, registry.withdraw partition)
    | none => (.answered false, registry)
  | .clearing handle => (.answered true, registry.clearAt handle)
  | .answered known => (.answered known, registry)

/-- A step of an opening or a closing. -/
def Passage.step (registry : Registry) : Passage → Passage × Registry
  | .opening partition phase =>
    let (phase, registry) := phase.step registry partition
    (.opening partition phase, registry)
  | .closing partition phase =>
    let (phase, registry) := phase.step registry partition
    (.closing partition phase, registry)

/-- A registry at work. A call is known by its place in the list. -/
structure Traffic where
  registry : Registry
  passages : List Passage

/-- What may happen next. -/
inductive Motion where
  | opens (partition : Partition)
  | closes (partition : Partition)
  | steps (passage : Nat)
  /-- Whoever holds a cache works in it. -/
  | works (handle : Nat) (cache : PartitionCache)

namespace Traffic

/-- One of those under way takes a step. -/
def stepPassage (traffic : Traffic) (n : Nat) : Traffic :=
  match traffic.passages[n]? with
  | none => traffic
  | some passage =>
    let (next, registry) := passage.step traffic.registry
    { registry, passages := traffic.passages.set n next }

/-- What a motion makes of a registry and its calls. -/
def next (traffic : Traffic) : Motion → Traffic
  | .opens partition =>
    { traffic with passages := traffic.passages ++ [.opening partition .looking] }
  | .closes partition =>
    { traffic with passages := traffic.passages ++ [.closing partition .withdrawing] }
  | .steps n => traffic.stepPassage n
  | .works handle cache => { traffic with registry := traffic.registry.setCache handle cache }

/-- What motions make of a registry and those at work on it, one after the other. -/
def run (traffic : Traffic) (motions : List Motion) : Traffic := motions.foldl next traffic

end Traffic

end QueryRewriting
