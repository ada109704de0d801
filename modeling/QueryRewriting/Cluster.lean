import QueryRewriting.Cluster.Broadcast
import QueryRewriting.Cluster.Node

/-! # The cluster

Nodes that share one store and send each other commands. A command goes to every member a node
knows, and none of them waits for another; whoever does not answer in time counts as not reached. -/

namespace QueryRewriting

/-- What becomes of a command on its way to a peer. -/
inductive Link where
  | sound
  | refused (message : String)
  | broken (message : String)
  | failing (message : String)
  | silent
  deriving DecidableEq, Repr

/-- The path at which a node takes commands of other nodes. -/
def commandPath : String := "/v1/cluster/command"

/-- The link to a peer at whose address nothing answers. -/
def Link.unanswered (peer : Peer) : Link :=
  .refused s!"error sending request for url ({peer.baseUrl}{commandPath})"

/-- Nodes around one store, how long the store takes, the nodes that are down, and the links that do
not just carry commands. -/
structure Cluster where
  store : Store
  delays : Delays
  nodes : List Node
  down : List String
  faults : List (String × Link)

namespace Cluster

/-- Nodes around an empty store, all of them up and with sound links. -/
def ofNodes (delays : Delays) (nodes : List Node) : Cluster :=
  { store := .empty, delays, nodes, down := [], faults := [] }

/-- A node with a store of its own, at the addresses of whose peers nothing answers. -/
def alone (node : Node) : Cluster :=
  { store := .empty, delays := .none, nodes := [node], down := []
    faults := node.peers.map fun peer => (peer.nodeId, Link.unanswered peer) }

/-- Takes a node down, or brings it up again. -/
def setDown (cluster : Cluster) (nodeId : String) (down : Bool) : Cluster :=
  let others := cluster.down.filter (· ≠ nodeId)
  { cluster with down := if down then nodeId :: others else others }

/-- Replaces the link to a peer; without another one it carries commands. -/
def setLink (cluster : Cluster) (nodeId : String) (link? : Option Link) : Cluster :=
  let others := cluster.faults.filter (·.1 ≠ nodeId)
  { cluster with faults := (link?.map fun link => (nodeId, link)).toList ++ others }

/-- The node of an id. -/
def find? (cluster : Cluster) (nodeId : String) : Option Node :=
  cluster.nodes.find? (·.id = nodeId)

/-- Puts a node in the place of the one with its id. -/
def setNode (cluster : Cluster) (node : Node) : Cluster :=
  { cluster with nodes := cluster.nodes.map fun old => if old.id = node.id then node else old }

/-- The link to a peer: it refuses when the peer is down or does not exist. -/
def linkTo (cluster : Cluster) (nodeId : String) : Link :=
  match cluster.faults.lookup nodeId with
  | some link => link
  | none =>
    if cluster.down.contains nodeId || (cluster.find? nodeId).isNone then
      .refused "Connection refused."
    else .sound

/-- The error of a member that did not answer in time. -/
def noReply (nodeId : String) (timeout : Nat) : ClusterError :=
  .nodeUnreachable nodeId s!"No reply within {timeout} ms."

/-- Lets a member carry out a command within a time. One that does not exist, or that takes longer,
has not replied. -/
def command (cluster : Cluster) (timeout : Nat) (nodeId : String) (command : Command) :
    Except ClusterError Reply × Cluster :=
  match cluster.find? nodeId with
  | none => (.error (noReply nodeId timeout), cluster)
  | some node =>
    let (outcome, store, node) := node.executeWithin cluster.delays timeout command cluster.store
    let outcome := match outcome with
      | none => .error (noReply nodeId timeout)
      | some (.error e) => .error (.nodeError nodeId e.message)
      | some (.ok reply) => .ok reply
    (outcome, { cluster with store }.setNode node)

/-- Sends a command to a peer. Whether it is carried out depends on the link. -/
def send (cluster : Cluster) (timeout : Nat) (nodeId : String) (message : Command) :
    Except ClusterError Reply × Cluster :=
  match cluster.linkTo nodeId with
  | .sound => cluster.command timeout nodeId message
  | .refused reason => (.error (.nodeUnreachable nodeId reason), cluster)
  | .broken reason => (.error (.transport reason), cluster)
  | .failing reason => (.error (.nodeError nodeId reason), cluster)
  | .silent => (.error (noReply nodeId timeout), cluster)

/-- Sends a command to some peers, one after the other, and collects what becomes of it. -/
def sendAll (timeout : Nat) (message : Command) (cluster : Cluster) :
    List Peer → Broadcast.Outcomes × Cluster
  | [] => ([], cluster)
  | peer :: rest =>
    let (outcome, cluster) := cluster.send timeout peer.nodeId message
    let (outcomes, cluster) := sendAll timeout message cluster rest
    ((peer.nodeId, outcome) :: outcomes, cluster)

/-- Sends a command to every member that a node knows, itself included. -/
def broadcast (cluster : Cluster) (sender : Node) (message : Command) :
    Except ClusterError Broadcast × Cluster :=
  let (own, cluster) := cluster.command sender.requestTimeout sender.id message
  let (others, cluster) := sendAll sender.requestTimeout message cluster sender.peers
  (Broadcast.collect message ((sender.id, own) :: others), cluster)

/-! ## Calls on one node -/

/-- Lets a node execute a command that was sent to it. -/
def execute (cluster : Cluster) (node : Node) (message : Command) :
    Except LoadError Reply × Cluster :=
  let (reply, store, node) := node.execute message cluster.store
  (reply, { cluster with store }.setNode node)

/-- Closes a partition of a node; answers whether it was open. -/
def close (cluster : Cluster) (node : Node) (partition : Partition) : Bool × Cluster :=
  let (closed, node) := node.close partition
  (closed, cluster.setNode node)

end Cluster

end QueryRewriting
