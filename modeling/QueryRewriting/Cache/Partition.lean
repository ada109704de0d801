import QueryRewriting.Cache.Instance
import QueryRewriting.Cache.Marks

/-! # The cache of one partition

What a partition holds, and the operations on it that no other call can divide. Whole lookups,
reloads and invalidations are made of these in `Cache.Call`.
-/

namespace QueryRewriting

/-- The instances of a partition by id, its marks, and the loads under way: for each id at most one,
known by its serial number. An id whose instance went when everything was cleared leaves a trace in
`cleared`, which is swept together with what is too heavy. -/
structure PartitionCache where
  partition : Partition
  maxBytes : Option Nat
  marks : Marks
  entries : List (String × Instance)
  cleared : List String
  loads : List (String × Nat)
  nextSerial : Nat

namespace PartitionCache

/-- The cache of a partition that has just been opened. -/
def empty (partition : Partition) (maxBytes : Option Nat) : PartitionCache :=
  { partition, maxBytes, marks := .empty, entries := [], cleared := [], loads := []
    nextSerial := 0 }

/-! ## Entries -/

/-- The instance held under an id. -/
def get? (cache : PartitionCache) (id : String) : Option Instance := cache.entries.lookup id

/-- Whether an instance is held under an id. -/
def contains (cache : PartitionCache) (id : String) : Bool := (cache.get? id).isSome

/-- Whether there is something to remove under an id: an instance, or the trace of one. -/
def occupies (cache : PartitionCache) (id : String) : Bool :=
  cache.contains id || cache.cleared.contains id

/-- Drops the instance of an id and the trace of one. -/
def remove (cache : PartitionCache) (id : String) : PartitionCache :=
  { cache with
    entries := cache.entries.filter (·.1 ≠ id)
    cleared := cache.cleared.filter (· ≠ id) }

/-- Puts an instance under its id, in place of the one there. A cache without any room keeps
nothing. -/
def insert (cache : PartitionCache) (made : Instance) : PartitionCache :=
  if cache.maxBytes = some 0 then cache
  else
    let rest := cache.remove made.id
    { rest with entries := (made.id, made) :: rest.entries }

/-- Drops every instance, leaving traces. -/
def clear (cache : PartitionCache) : PartitionCache :=
  { cache with entries := [], cleared := cache.entries.map (·.1) ++ cache.cleared }

/-- Whether this very instance is the one held under its id. -/
def holds (cache : PartitionCache) (made : Instance) : Bool :=
  match cache.get? made.id with
  | some held => held.serial = made.serial
  | none => false

/-- Drops an instance unless another one has taken its place. -/
def discard (cache : PartitionCache) (made : Instance) : PartitionCache :=
  if cache.holds made then cache.remove made.id else cache

/-! ## Marks -/

/-- Marks an id as invalidated now. -/
def mark (cache : PartitionCache) (id : String) : PartitionCache :=
  { cache with marks := cache.marks.mark id }

/-- Marks every id as invalidated now. -/
def markAll (cache : PartitionCache) : PartitionCache :=
  { cache with marks := cache.marks.markAll }

/-- Whether an instance was invalidated after its definition was read. -/
def isStale (cache : PartitionCache) (made : Instance) : Bool :=
  cache.marks.invalidatedSince made.id made.stamp

/-! ## Loads -/

/-- The load of an id that is under way, by its serial number. -/
def loading? (cache : PartitionCache) (id : String) : Option Nat := cache.loads.lookup id

/-- Gives out the next serial number, to a load that nobody waits for. -/
def takeSerial (cache : PartitionCache) : Nat × PartitionCache :=
  (cache.nextSerial, { cache with nextSerial := cache.nextSerial + 1 })

/-- Begins a load of an id that others can wait for. -/
def beginLoad (cache : PartitionCache) (id : String) : Nat × PartitionCache :=
  (cache.nextSerial, { cache with
    nextSerial := cache.nextSerial + 1
    loads := (id, cache.nextSerial) :: cache.loads })

/-- Ends the load of an id. -/
def endLoad (cache : PartitionCache) (id : String) : PartitionCache :=
  { cache with loads := cache.loads.filter (·.1 ≠ id) }

/-! ## Size -/

/-- Whether an instance is not heavier than the whole budget. -/
def fits (cache : PartitionCache) (made : Instance) : Bool :=
  match cache.maxBytes with
  | some budget => made.weight ≤ budget
  | none => true

/-- Drops the instances that are too heavy and sweeps the traces of those that were cleared. -/
def settle (cache : PartitionCache) : PartitionCache :=
  { cache with entries := cache.entries.filter (fun entry => cache.fits entry.2), cleared := [] }

/-- How many instances are held. -/
def entryCount (cache : PartitionCache) : Nat := cache.entries.length

/-- How much they weigh together. -/
def weightedSize (cache : PartitionCache) : Nat :=
  cache.entries.foldr (fun entry size => entry.2.weight + size) 0

/-- The form in which a partition is shown to those who look for faults. -/
def display (cache : PartitionCache) : String :=
  "PartitionCache \x7b partition: " ++ cache.partition.display ++ ", entries: "
    ++ toString cache.entryCount ++ ", .. \x7d"

end PartitionCache

end QueryRewriting
