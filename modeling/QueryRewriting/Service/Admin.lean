import QueryRewriting.Cluster
import QueryRewriting.Service.Error
import QueryRewriting.Service.Request
import QueryRewriting.Text.Blank

/-! # Administration

Operators define, inspect and delete rewriters. A definition is checked before it is stored, and a
write is followed by a command to all nodes; nodes that the command does not reach do not undo the
write.
-/

namespace QueryRewriting

open Text

/-! ## Responses -/

/-- The answer to a definition that was stored. -/
structure PutResponse where
  id : String
  schemaVersion : Int
  invalidation : Broadcast

/-- The JSON form of the response to a put. -/
def PutResponse.toJson (response : PutResponse) : Json :=
  .object [("invalidation", response.invalidation.toJson), ("rewriter_id", .text response.id),
    ("schema_version", Json.whole response.schemaVersion)]

/-- The answer to a deletion. -/
structure DeleteResponse where
  id : String
  deleted : Bool
  invalidation : Broadcast

/-- The JSON form of the response to a deletion. -/
def DeleteResponse.toJson (response : DeleteResponse) : Json :=
  .object [("deleted", .bool response.deleted), ("invalidation", response.invalidation.toJson),
    ("rewriter_id", .text response.id)]

/-- What is wrong with a definition that was only to be checked. -/
structure ValidateResponse where
  id : String
  errors : List String
  deriving DecidableEq, Repr

/-- A definition is valid when nothing is wrong with it. -/
def ValidateResponse.valid (response : ValidateResponse) : Bool := response.errors.isEmpty

/-- The JSON form of what there is to say against a definition. -/
def ValidateResponse.toJson (response : ValidateResponse) : Json :=
  .object [("errors", Json.texts response.errors), ("rewriter_id", .text response.id),
    ("valid", .bool response.valid)]

/-! ## Operations on one node -/

/-- The definition that a put makes of its request: the kind without the blanks around it, and the
newest version. -/
def PutRequest.definition (request : PutRequest) (id : String) :
    Except ServiceError Definition := do
  checkId id
  let kind := trim request.kind
  if kind.isEmpty then .error (.invalidRequest "kind is required.")
  else
    return {
      id, kind, config := request.config, logging := request.logging
      schemaVersion := currentVersion }

/-- The definition of an id, as a store is asked for it. -/
def Store.definition (store : Store) (id : String) : Except ServiceError Definition × Store :=
  match checkId id with
  | .error e => (.error e, store)
  | .ok () =>
    let (reply, store) := store.get id
    let answer := match reply with
      | .error e => .error (.ofStore e)
      | .ok none => .error (.load (.notFound id))
      | .ok (some definition) => .ok definition
    (answer, store)

/-- Lists everything that is wrong with a definition. -/
def Kinds.validate (kinds : Kinds) (id : String) (request : PutRequest) :
    Except ServiceError ValidateResponse := do
  let definition ← request.definition id
  match kinds.problems definition with
  | .ok errors => return { id, errors }
  | .error (.unknownKind kind) =>
    return { id, errors := [(RewriterError.unknownKind kind).message] }
  | .error e => .error (.ofRewriter e)

/-! ## Operations on the cluster -/

namespace Cluster

/-- The definition of an id, as the store of a cluster is asked for it. -/
def definition (cluster : Cluster) (id : String) : Except ServiceError Definition × Cluster :=
  let (definition, store) := cluster.store.definition id
  (definition, { cluster with store })

/-- Sends a command to all members; if none was reached, that is what is reported. -/
def notify (cluster : Cluster) (sender : Node) (message : Command) : Broadcast × Cluster :=
  let (outcome, cluster) := cluster.broadcast sender message
  let report := match outcome with
    | .ok broadcast => broadcast
    | .error (.noNodesReachable failed) => { command := message, succeeded := [], failed }
    | .error _ => { command := message, succeeded := [], failed := [] }
  (report, cluster)

/-- The definition that a request may store, and the store with it. -/
def accept (cluster : Cluster) (sender : Node) (id : String) (request : PutRequest) :
    Except ServiceError (Definition × Store) := do
  let definition ← request.definition id
  (sender.registry.kinds.check definition).mapError .ofRewriter
  let store ← (cluster.store.put definition).mapError .ofStore
  return (definition, store)

/-- Stores a definition and has it reloaded everywhere. -/
def put (cluster : Cluster) (sender : Node) (id : String) (request : PutRequest) :
    Except ServiceError PutResponse × Cluster :=
  match cluster.accept sender id request with
  | .error e => (.error e, cluster)
  | .ok (definition, store) =>
    let (invalidation, cluster) := { cluster with store }.notify sender (.reload id)
    (.ok { id, schemaVersion := definition.schemaVersion, invalidation }, cluster)

/-- Deletes a definition and has it cleared everywhere, also when there was none. -/
def delete (cluster : Cluster) (sender : Node) (id : String) :
    Except ServiceError DeleteResponse × Cluster :=
  let written := do
    checkId id
    (cluster.store.delete id).mapError .ofStore
  match written with
  | .error e => (.error e, cluster)
  | .ok (deleted, store) =>
    let (invalidation, cluster) := { cluster with store }.notify sender (.clear (some id))
    (.ok { id, deleted, invalidation }, cluster)

/-- Tells every member to renew the instances of an id. -/
def reload (cluster : Cluster) (sender : Node) (id : String) :
    Except ServiceError Broadcast × Cluster :=
  match checkId id with
  | .error e => (.error e, cluster)
  | .ok () =>
    let (outcome, cluster) := cluster.broadcast sender (.reload id)
    (outcome.mapError .ofCluster, cluster)

/-- Tells every member to drop the instances of an id, or of all. -/
def clear (cluster : Cluster) (sender : Node) (id? : Option String) :
    Except ServiceError Broadcast × Cluster :=
  match id?.mapM checkId with
  | .error e => (.error e, cluster)
  | .ok _ =>
    let (outcome, cluster) := cluster.broadcast sender (.clear id?)
    (outcome.mapError .ofCluster, cluster)

end Cluster

end QueryRewriting
