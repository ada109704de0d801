import QueryRewriting.Http.Message
import QueryRewriting.Http.Path
import QueryRewriting.Service.Admin
import QueryRewriting.Service.Rewriting

/-! # The service over HTTP

A node has two sets of routes: one for clients and other nodes, and one for operators. A route is
found by its path alone; only then does the method count, and what the method needs is read from the
path before the body.
-/

namespace QueryRewriting.Http

open Json

/-! ## Errors -/

/-- The body of an error; which fields it is about is said of settings only. -/
def errorBody (code message : String) (fields? : Option (List String)) : Json :=
  .object ([("error_code", .text code), ("message", .text message)]
    ++ (fields?.map fun fields => ("fields", Json.texts fields)).toList)

/-- The status, the code and the details of an error in a load. -/
def describeLoad : LoadError → Nat × String × Option (List String)
  | .notFound _ => (404, "not_found", none)
  | .rewriter (.unknownKind _) => (400, "unknown_kind", none)
  | .rewriter (.invalidConfig _ messages) => (400, "invalid_config", some messages)
  | .rewriter (.failed _ _) => (500, "rewrite_failed", none)
  | .storeUnavailable _ => (503, "store_unavailable", none)
  | .invalidDocument _ _ => (500, "invalid_document", none)

/-- The status, the code and the details of an error. -/
def describe : ServiceError → Nat × String × Option (List String)
  | .invalidRequest _ => (400, "invalid_request", none)
  | .load error => describeLoad error
  | .clusterUnreachable failures =>
    (502, "cluster_unreachable", some (failures.map fun f => s!"{f.nodeId}: {f.message}"))
  | .cluster _ => (500, "cluster_error", none)

/-- The response to a request that the service did not serve. -/
def Response.ofError (error : ServiceError) : Response :=
  let (status, code, fields?) := describe error
  { status, body? := some (errorBody code error.message fields?) }

/-- The response to what a service has answered. -/
def Response.of {α : Type} (write : α → Json) : Except ServiceError α → Response
  | .ok value => .ok (write value)
  | .error error => .ofError error

/-! ## Routes -/

/-- The routes for clients and other nodes. Segments are still escaped. -/
inductive PublicRoute where
  | health
  | rewriteQuery
  | command
  | close (index shard : String)
  deriving DecidableEq, Repr

/-- The routes for operators. Segments are still escaped. -/
inductive AdminRoute where
  | rewriter (id : String)
  | validate (id : String)
  | reload (id : String)
  | clear
  deriving DecidableEq, Repr

/-- The public route of a path. -/
def PublicRoute.find? : List String → Option PublicRoute
  | ["", "health"] => some .health
  | ["", "v1", "rewrite"] => some .rewriteQuery
  | ["", "v1", "cluster", "command"] => some .command
  | ["", "v1", "partitions", index, shard, "close"] => some (.close index shard)
  | _ => none

/-- The operators' route of a path. A path does not end in an empty id. -/
def AdminRoute.find? : List String → Option AdminRoute
  | ["", "v1", "admin", "rewriters", id] => if id.isEmpty then none else some (.rewriter id)
  | ["", "v1", "admin", "rewriters", id, "validate"] => some (.validate id)
  | ["", "v1", "admin", "reload", id] => if id.isEmpty then none else some (.reload id)
  | ["", "v1", "admin", "clear"] => some .clear
  | _ => none

/-- The text of a segment, without its escapes. -/
def segmentText (segment : String) : Except Rejection String :=
  match unescape? segment with
  | some unescaped => .ok unescaped
  | none => .error .badSegment

/-- The partition that two segments name. -/
def segmentPartition (index shard : String) : Except Rejection Partition := do
  let index ← segmentText index
  let shard ← segmentText shard
  match Decimal.readUnsigned? 32 shard.toList with
  | some shard => return { index, shard := UInt32.ofNat shard }
  | none => .error .badSegment

/-! ## Service -/

/-- A request that was served: the response, what was logged, and the cluster after it. -/
structure Served where
  response : Response
  log : List LogEntry
  cluster : Cluster

namespace Served

/-- A response about which nothing is logged. -/
def silent (cluster : Cluster) (response : Response) : Served :=
  { response, log := [], cluster }

/-- Serves a request once what it needs has been read. -/
def whenRead {α : Type} (cluster : Cluster) (read : Except Rejection α) (serve : α → Served) :
    Served :=
  match read with
  | .ok value => serve value
  | .error rejection => silent cluster (.bare rejection.status)

/-- The response to a call on the cluster, about which nothing is logged. -/
def ofCluster {α : Type} (write : α → Json) (served : Except ServiceError α × Cluster) : Served :=
  silent served.2 (.of write served.1)

end Served

open Served

/-- The optional body of a request to clear: the id, if not everything is to be cleared. -/
def clearBody (json : Json) : Decoded (Option String) := do
  let record ← json.asRecord "struct ClearRequest" ["id"] false
  let id ← record.fold none fun _ _ value => value.asOption asText
  record.finish id

/-- Serves a request that anyone may make. -/
def servePublic (cluster : Cluster) (node : Node) (request : Request) : Served :=
  match PublicRoute.find? (segments request.target), request.method with
  | some .health, "GET" =>
    silent cluster (.ok (.object [("node_id", .text node.id),
      ("partitions", Json.whole node.registry.partitions.length)]))
  | some .rewriteQuery, "POST" =>
    whenRead cluster (request.decode RewriteRequest.ofJson) fun body =>
      let (response, log, cluster) := cluster.rewriteQuery node body
      { response := .of RewriteResponse.toJson response, log, cluster }
  | some .command, "POST" =>
    whenRead cluster (request.decode Command.ofJson) fun command =>
      let (reply, cluster) := cluster.execute node command
      silent cluster (.of Reply.toJson (reply.mapError .load))
  | some (.close index shard), "POST" =>
    whenRead cluster (segmentPartition index shard) fun partition =>
      let (closed, cluster) := cluster.close node partition
      silent cluster (.ok (.object [("closed", .bool closed), ("partition", partition.toJson)]))
  | some _, _ => silent cluster (.bare Rejection.wrongMethod.status)
  | none, _ => silent cluster (.bare Rejection.noRoute.status)

/-- In a definition the amount of logging is a name, or an object with one name that stands for
null. A value of another type, and what follows the name in the object, are noticed by a missing
sign. -/
def breaksDefinition : Mismatch → Bool
  | .noVariant _ => true
  | .notOneKey [] => true
  | .notOneKey ((name, .null) :: _) => (LogPayload.names.lookup name).isSome
  | mismatch => breaksText mismatch

/-- Reads an id out of the path and then a definition out of the body. -/
def readPut (request : Request) (id : String) : Except Rejection (String × PutRequest) := do
  let id ← segmentText id
  let body ← request.decode PutRequest.ofJson breaksDefinition
  return (id, body)

/-- Serves a request of an administrator. -/
def serveAdmin (cluster : Cluster) (node : Node) (request : Request) : Served :=
  match AdminRoute.find? (segments request.target), request.method with
  | some (.rewriter id), "PUT" =>
    whenRead cluster (readPut request id) fun (id, body) =>
      ofCluster PutResponse.toJson (cluster.put node id body)
  | some (.rewriter id), "GET" =>
    whenRead cluster (segmentText id) fun id =>
      ofCluster Definition.toJson (cluster.definition id)
  | some (.rewriter id), "DELETE" =>
    whenRead cluster (segmentText id) fun id =>
      ofCluster DeleteResponse.toJson (cluster.delete node id)
  | some (.validate id), "POST" =>
    whenRead cluster (readPut request id) fun (id, body) =>
      silent cluster (.of ValidateResponse.toJson (node.registry.kinds.validate id body))
  | some (.reload id), "POST" =>
    whenRead cluster (segmentText id) fun id =>
      ofCluster Broadcast.toJson (cluster.reload node id)
  | some .clear, "POST" =>
    whenRead cluster (request.decodeIfAny clearBody) fun id? =>
      ofCluster Broadcast.toJson (cluster.clear node (id?.getD none))
  | some _, _ => silent cluster (.bare Rejection.wrongMethod.status)
  | none, _ => silent cluster (.bare Rejection.noRoute.status)

/-- Serves a request that asks for the response without its body, or any other one. -/
def serve (admin : Bool) (cluster : Cluster) (node : Node) (request : Request) : Served :=
  let route (request : Request) :=
    if admin then serveAdmin cluster node request else servePublic cluster node request
  if request.method = "HEAD" then
    let served := route { request with method := "GET" }
    { served with response := .bare served.response.status }
  else route request

end QueryRewriting.Http
