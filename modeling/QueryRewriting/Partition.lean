import QueryRewriting.Json.Decode

/-! # Index partitions

A node keeps compiled rewriters per partition: one shard of one index.
-/

namespace QueryRewriting

open Json Text

/-- One shard of an index. -/
structure Partition where
  index : String
  shard : UInt32
  deriving DecidableEq, Repr

namespace Partition

/-- The short form of a partition. -/
def name (p : Partition) : String := s!"{p.index}[{p.shard}]"

/-- The form in which a partition is shown to those who look for faults. -/
def display (p : Partition) : String :=
  "PartitionId \x7b index: " ++ quoted p.index ++ ", shard: " ++ toString p.shard ++ " \x7d"

/-- Partitions are listed by index, then by shard. -/
def le (p q : Partition) : Bool :=
  p.index < q.index || (p.index == q.index && p.shard ≤ q.shard)

/-- The JSON form of a partition. -/
def toJson (p : Partition) : Json :=
  .object [("index", .text p.index), ("shard", Json.whole p.shard.toNat)]

/-- Reads a partition: an index and the number of a shard. -/
def ofJson (json : Json) : Decoded Partition := do
  let record ← json.asRecord "struct PartitionId" ["index", "shard"] false
  let (index, shard) ← record.fold (none, none) fun (index, shard) key value =>
    match key with
    | "index" => do return (some (← value.asText), shard)
    | _ => do return (index, some (← value.asUInt32))
  record.finish { index := ← record.need "index" index, shard := ← record.need "shard" shard }

end Partition

end QueryRewriting
