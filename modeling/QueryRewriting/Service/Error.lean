import QueryRewriting.Cache.Registry
import QueryRewriting.Cluster.Broadcast
import QueryRewriting.Composition
import QueryRewriting.Threshold

/-! # Errors of the service

What a client is told when its request cannot be served.
-/

namespace QueryRewriting

/-- Why a request was not served. -/
inductive ServiceError where
  | invalidRequest (message : String)
  | load (error : LoadError)
  | clusterUnreachable (failures : List Failure)
  | cluster (message : String)
  deriving Repr

namespace ServiceError

/-- What is said of a call that failed. -/
def message : ServiceError → String
  | .invalidRequest message => s!"Invalid request: {message}"
  | .load error => error.message
  | .clusterUnreachable _ => "No cluster node could be reached."
  | .cluster message => s!"Cluster error: {message}"

/-- An id that is refused is a fault of the request. -/
def ofId (fault : IdFault) : ServiceError := .invalidRequest fault.message

/-- A threshold that is refused is a fault of the request. -/
def ofThreshold (error : ThresholdError) : ServiceError := .invalidRequest error.message

/-- A boost that is refused is a fault of the request. -/
def ofBoost (error : InvalidBoost) : ServiceError := .invalidRequest error.message

/-- A partition for which there is no room is a fault of the request. -/
def ofLimit (error : PartitionLimit) : ServiceError := .invalidRequest error.message

/-- A rewriter that fails. -/
def ofRewriter (error : RewriterError) : ServiceError := .load (.rewriter error)

/-- A store that fails. -/
def ofStore (error : StoreError) : ServiceError := .load (.ofStore error)

/-- A command that had no effect. -/
def ofCluster : ClusterError → ServiceError
  | .noNodesReachable failures => .clusterUnreachable failures
  | error => .cluster error.message

end ServiceError

/-- Refuses what is no id. -/
def checkId (id : String) : Except ServiceError Unit :=
  match idFault? id with
  | some fault => .error (.ofId fault)
  | none => .ok ()

end QueryRewriting
