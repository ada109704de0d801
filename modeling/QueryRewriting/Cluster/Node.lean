import QueryRewriting.Cache.Registry
import QueryRewriting.Cluster.Command
import QueryRewriting.Threshold

/-! # Nodes

A node serves partitions, knows its peers, and executes the commands it is sent on its own caches.
-/

namespace QueryRewriting

/-- A node of the cluster. Its times are in milliseconds. -/
structure Node where
  id : String
  peers : List Peer
  requestTimeout : Nat
  paramNamespace : String
  threshold : Option Threshold
  registry : Registry

namespace Node

/-- The node of some settings, which knows the given kinds and serves no partition yet. -/
def ofSettings (kinds : Kinds) (settings : Settings) : Except ThresholdError Node := do
  let threshold ← settings.threshold.mapM Threshold.read
  return {
    id := settings.nodeId
    peers := settings.peers
    requestTimeout := settings.requestTimeout
    paramNamespace := settings.paramNamespace
    threshold
    registry := .empty kinds settings.cacheBounds }

/-- The ids of all members that a node knows, its own first. -/
def memberIds (node : Node) : List String := node.id :: node.peers.map (·.nodeId)

/-- The reply of a node to a command that touched so many partitions. -/
def reply (node : Node) (partitions : Nat) : Reply := { nodeId := node.id, partitions }

/-- Drops and marks the instances of an id, or of all, in every partition. -/
def clear (id? : Option String) (node : Node) : Reply × Node :=
  let (count, registry) := match id? with
    | some id => node.registry.invalidate id
    | none => node.registry.invalidateAll
  (node.reply count, { node with registry })

/-- Lets a node carry out a command, however long the store takes. -/
def execute (command : Command) (store : Store) (node : Node) :
    Except LoadError Reply × Store × Node :=
  match command with
  | .reload id =>
    let (outcome, store, registry) := node.registry.reload id store
    (outcome.map node.reply, store, { node with registry })
  | .clear id? =>
    let (reply, node) := node.clear id?
    (.ok reply, store, node)

/-- Executes a command; one that runs out of time has no answer, and is left where it stands. -/
def executeWithin (delays : Delays) (time : Nat) (command : Command) (store : Store)
    (node : Node) : Option (Except LoadError Reply) × Store × Node :=
  match command with
  | .reload id =>
    let (outcome, store, registry) := node.registry.reloadWithin delays time id store
    (outcome.map fun outcome => outcome.map node.reply, store, { node with registry })
  | .clear id? =>
    let (reply, node) := node.clear id?
    (some (.ok reply), store, node)

/-- Closes a partition; answers whether it was open. -/
def close (node : Node) (partition : Partition) : Bool × Node :=
  let (closed, registry) := node.registry.close partition
  (closed, { node with registry })

end Node

end QueryRewriting
