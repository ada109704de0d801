import QueryRewriting.Cluster
import QueryRewriting.Service.Error
import QueryRewriting.Service.Request

/-! # Rewriting a query

A request is checked, its rewriters are looked up in the order given, and only when all of them are
there are they run one after the other. What they add to the query is composed at the end. Each
application is logged as the rewriter's definition asks for.
-/

namespace QueryRewriting

open Text

/-! ## Checks -/

/-- Refuses what is no id and an id that is named twice; `seen` holds the ids before. -/
def checkRefs (seen : List String) : List RewriterRef → Except ServiceError Unit
  | [] => .ok ()
  | ref :: rest => do
    checkId ref.id
    if seen.contains ref.id then
      .error (.invalidRequest s!"Rewriter {quoted ref.id} is listed more than once.")
    else checkRefs (ref.id :: seen) rest

/-- The threshold of a request: its own unless that is blank, else that of the node. -/
def chooseThreshold (default : Option Threshold) (text? : Option String) :
    Except ServiceError (Option Threshold) :=
  match text? with
  | none => .ok default
  | some text =>
    if isBlank text then .ok default
    else ((Threshold.read text).map some).mapError .ofThreshold

/-- The parameters of all references, each mounted under its id. -/
def mountAll (paramNamespace : String) (refs : List RewriterRef) : Params :=
  refs.foldl (fun tree ref =>
    match ref.params? with
    | some params => tree.mount paramNamespace ref.id params
    | none => tree) .empty

/-! ## Applications -/

/-- The instances of some ids, looked up in this order until one is not there. -/
def Registry.lookupAll (handle : Nat) (registry : Registry) (store : Store) :
    List String → Except LoadError (List Instance) × Store × Registry
  | [] => (.ok [], store, registry)
  | id :: rest =>
    match registry.lookup handle id store with
    | (.error e, store, registry) => (.error e, store, registry)
    | (.ok found, store, registry) =>
      let (others, store, registry) := lookupAll handle registry store rest
      (others.map (found :: ·), store, registry)

/-- A rewriter that was run, and the notes that it took. -/
structure Application where
  applied : Instance
  notes : List String

/-- Runs rewriters one after the other: those that were run, and what they made of the query. -/
def applyAll (partition : Partition) (paramNamespace : String) (params : Params)
    (expansion : Expansion) : List Instance → List Application × Except RewriterError Expansion
  | [] => ([], .ok expansion)
  | found :: rest =>
    match found.rewriter.apply { partition, rewriterId := found.id, paramNamespace, params }
        expansion with
    | .error e => ([], .error e)
    | .ok (expansion, notes) =>
      let (applications, outcome) := applyAll partition paramNamespace params expansion rest
      ({ applied := found, notes } :: applications, outcome)

/-! ## The info log -/

/-- A line of the info log. The notes are there only if the definition asks for details. -/
structure LogEntry where
  rewriterId : String
  partition : Partition
  notes? : Option (List String)
  deriving DecidableEq, Repr

/-- What an entry of the info log says. -/
def LogEntry.message : String := "Rewriter applied."

/-- The JSON form of an entry of the info log. -/
def LogEntry.toJson (entry : LogEntry) : Json :=
  .object ((entry.notes?.map fun notes => ("actions", Json.text (quotedList notes))).toList
    ++ [("message", .text LogEntry.message), ("partition", .text entry.partition.name),
      ("rewriter_id", .text entry.rewriterId)])

/-- The lines that an application writes to one sink. -/
def Application.line (application : Application) (partition : Partition) : List LogEntry :=
  let id := application.applied.id
  match application.applied.payload with
  | .none => []
  | .rewriterId => [{ rewriterId := id, partition, notes? := none }]
  | .detail => [{ rewriterId := id, partition, notes? := some application.notes }]

/-- The lines that an application writes: one for each time its definition names the sink. -/
def Application.log (application : Application) (partition : Partition) : List LogEntry :=
  let sinks := (application.applied.definition.logging.map (·.sinks)).getD []
  (sinks.filter (· = tracingSink)).flatMap fun _ => application.line partition

/-! ## Requests -/

/-- The answer to a request: the composed query, the ids of the rewriters that were run, and their
notes. -/
structure RewriteResponse where
  query : Query
  applied : List String
  actions : List (String × String)

/-- The JSON form of the response to a request. -/
def RewriteResponse.toJson (response : RewriteResponse) : Json :=
  .object [
    ("actions", .list (response.actions.map fun (id, note) =>
      .object [("action", .text note), ("rewriter_id", .text id)])),
    ("applied", Json.texts response.applied),
    ("query", response.query.toJson)]

/-- The response when rewriters have been applied: what they made of the query, and what each of
them noted. -/
def RewriteResponse.ofApplications (applications : List Application) (query : Query) :
    RewriteResponse where
  query := query
  applied := applications.map (·.applied.id)
  actions := applications.flatMap fun application =>
    application.notes.map fun note => (application.applied.id, note)

/-- Runs the rewriters that were found for a request. -/
def RewriteRequest.apply (request : RewriteRequest) (paramNamespace : String)
    (threshold : Option Threshold) (chain : List Instance) :
    Except ServiceError RewriteResponse × List LogEntry :=
  let params := mountAll paramNamespace request.rewriters
  let (applications, outcome) :=
    applyAll request.partition paramNamespace params (.ofQuery request.query) chain
  let response := match outcome with
    | .error e => .error (.ofRewriter e)
    | .ok expansion =>
      match expansion.compose threshold with
      | .ok query => .ok (.ofApplications applications query)
      | .error e => .error (.ofBoost e)
  (response, applications.flatMap (·.log request.partition))

/-- What must hold before a request touches anything: the threshold to compose with, and the cache
to look in. -/
def Node.prepare (node : Node) (request : RewriteRequest) :
    Except ServiceError (Option Threshold × Nat × Registry) := do
  checkRefs [] request.rewriters
  let threshold ← chooseThreshold node.threshold request.threshold?
  let (handle, registry) ← (node.registry.serve request.partition).mapError .ofLimit
  return (threshold, handle, registry)

/-- Rewrites a query on a node: the request is checked, its rewriters are all looked up, and only
then is the first of them run. -/
def Node.rewriteQuery (node : Node) (request : RewriteRequest) (store : Store) :
    Except ServiceError RewriteResponse × List LogEntry × Store × Node :=
  match node.prepare request with
  | .error e => (.error e, [], store, node)
  | .ok (threshold, handle, registry) =>
    let (chain, store, registry) :=
      registry.lookupAll handle store (request.rewriters.map (·.id))
    let node := { node with registry }
    match chain with
    | .error e => (.error (.load e), [], store, node)
    | .ok chain =>
      let (response, log) := request.apply node.paramNamespace threshold chain
      (response, log, store, node)

/-- Rewrites a query on a node of a cluster. -/
def Cluster.rewriteQuery (cluster : Cluster) (node : Node) (request : RewriteRequest) :
    Except ServiceError RewriteResponse × List LogEntry × Cluster :=
  let (response, log, store, node) := node.rewriteQuery request cluster.store
  (response, log, { cluster with store }.setNode node)

end QueryRewriting
