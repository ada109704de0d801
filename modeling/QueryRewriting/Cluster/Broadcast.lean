import QueryRewriting.Cluster.Command
import QueryRewriting.Text.Quoted

/-! # The outcome of a broadcast

A command goes to every member of the cluster. Each member replies, or reports an error of its own,
or is not reached. A broadcast that reached nobody fails as a whole.
-/

namespace QueryRewriting

open Text

/-- How a command failed on a node: it was not reached, or it was and reported an error. -/
inductive FailureKind where
  | unreachable
  | nodeError
  deriving DecidableEq, Repr

/-- The name of a kind of failure in JSON. -/
def FailureKind.name : FailureKind → String
  | .unreachable => "unreachable"
  | .nodeError => "node_error"

/-- A member on which a command failed. -/
structure Failure where
  nodeId : String
  kind : FailureKind
  message : String
  deriving DecidableEq, Repr

/-- The JSON form of a failure. -/
def Failure.toJson (failure : Failure) : Json :=
  .object [("kind", .text failure.kind.name), ("message", .text failure.message),
    ("node_id", .text failure.nodeId)]

/-- Why a command had no effect on a node, or on any. -/
inductive ClusterError where
  | nodeUnreachable (nodeId message : String)
  | nodeError (nodeId message : String)
  | noNodesReachable (failures : List Failure)
  | transport (message : String)
  deriving DecidableEq, Repr

/-- What is said of a command that had no effect. -/
def ClusterError.message : ClusterError → String
  | .nodeUnreachable nodeId message => s!"Node {quoted nodeId} is unreachable: {message}"
  | .nodeError nodeId message => s!"Node {quoted nodeId} reported an error: {message}"
  | .noNodesReachable failures =>
    s!"No cluster node could be reached ({failures.length} failed)."
  | .transport message => s!"Failed to build cluster transport: {message}"

/-- An error as the failure of the member it happened on. -/
def Failure.ofError (nodeId : String) : ClusterError → Failure
  | .nodeUnreachable _ message => { nodeId, kind := .unreachable, message }
  | .nodeError _ message => { nodeId, kind := .nodeError, message }
  | error => { nodeId, kind := .unreachable, message := error.message }

/-- What became of a command: the replies and the failures, each in the order of the members. -/
structure Broadcast where
  command : Command
  succeeded : List Reply
  failed : List Failure
  deriving DecidableEq, Repr

namespace Broadcast

/-- Whether the command failed nowhere. -/
def isComplete (broadcast : Broadcast) : Bool := broadcast.failed.isEmpty

/-- How many partitions the command touched, over all members. -/
def partitions (broadcast : Broadcast) : Nat :=
  broadcast.succeeded.foldr (fun reply count => reply.partitions + count) 0

/-- The JSON form of what became of a command. -/
def toJson (broadcast : Broadcast) : Json :=
  .object [("command", broadcast.command.toJson),
    ("failed", .list (broadcast.failed.map Failure.toJson)),
    ("succeeded", .list (broadcast.succeeded.map Reply.toJson))]

/-- What the members made of a command, in their order. -/
abbrev Outcomes := List (String × Except ClusterError Reply)

/-- The replies among the outcomes. -/
def replies (outcomes : Outcomes) : List Reply :=
  outcomes.filterMap fun (_, outcome) => outcome.toOption

/-- The failures among the outcomes, each with the member that it happened on. -/
def failures (outcomes : Outcomes) : List Failure :=
  outcomes.filterMap fun (nodeId, outcome) =>
    match outcome with
    | .ok _ => none
    | .error error => some (.ofError nodeId error)

/-- Collects the outcomes of a command, unless no member was reached at all. -/
def collect (command : Command) (outcomes : Outcomes) : Except ClusterError Broadcast :=
  let succeeded := replies outcomes
  let failed := failures outcomes
  if succeeded.isEmpty && failed.all (·.kind = .unreachable) then .error (.noNodesReachable failed)
  else .ok { command, succeeded, failed }

end Broadcast

end QueryRewriting
