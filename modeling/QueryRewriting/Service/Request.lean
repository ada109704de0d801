import QueryRewriting.Definition.Codec
import QueryRewriting.Partition
import QueryRewriting.Query.Codec

/-! # Requests

What a client asks a node for: a query to be rewritten by a list of rewriters, or a definition to be
kept.
-/

namespace QueryRewriting

open Json

/-- A rewriter named by a request, with the parameters given to it. A bare id gives none. -/
structure RewriterRef where
  id : String
  params? : Option Json.Fields
  deriving Repr

namespace RewriterRef

/-- Reads the id and the parameters of a rewriter off an object; the parameters may be left out. -/
def readFields (id : Option String) (params : Option Json.Fields) : Fields → Decoded RewriterRef
  | [] => do return { id := ← need "id" id, params? := some (params.getD []) }
  | ("id", json) :: rest => do
    once "id" id
    readFields (some (← json.asText)) params rest
  | ("params", json) :: rest => do
    once "params" params
    readFields id (some (← json.asFields)) rest
  | _ :: rest => readFields id params rest

/-- Reads a reference. A value of neither form is reported as such, whatever is wrong with it. -/
def ofJson : Json → Decoded RewriterRef
  | .text id => .ok { id, params? := none }
  | .object fields => (readFields none none fields).mapError fun _ => .noAlternative "RewriterRef"
  | _ => .error (.noAlternative "RewriterRef")

/-- The JSON form of a rewriter that is asked for: its id alone, if it has no parameters. -/
def toJson (ref : RewriterRef) : Json :=
  match ref.params? with
  | none => .text ref.id
  | some params => .object [("id", .text ref.id), ("params", .object params)]

end RewriterRef

/-- A query to be rewritten: on which partition, by which rewriters in which order, and how many of
the optional clauses must match. -/
structure RewriteRequest where
  partition : Partition
  rewriters : List RewriterRef
  query : Query
  threshold? : Option String

/-- The fields of such a request read so far. -/
structure RewriteRequestFields where
  partition : Option Partition
  rewriters : Option (List RewriterRef)
  query : Option Query
  threshold? : Option String

/-- Reads a request to rewrite a query. -/
def RewriteRequest.ofJson (json : Json) : Decoded RewriteRequest := do
  let record ← json.asRecord "struct RewriteRequest"
    ["partition", "rewriters", "query", "minimum_should_match"] false
  let start : RewriteRequestFields := ⟨none, none, none, none⟩
  let read ← record.fold start fun read key value =>
    match key with
    | "partition" => do return { read with partition := some (← Partition.ofJson value) }
    | "rewriters" => do return { read with rewriters := some (← value.asList RewriterRef.ofJson) }
    | "query" => do return { read with query := some (← Query.ofJson value) }
    | _ => do return { read with threshold? := ← value.asOption asText }
  record.finish
    { partition := ← record.need "partition" read.partition
      rewriters := ← record.need "rewriters" read.rewriters
      query := ← record.need "query" read.query
      threshold? := read.threshold? }

/-- A definition as an operator sends it, without its id. -/
structure PutRequest where
  kind : String
  config : Json.Fields
  logging : Option Logging

/-- Reads a request to put a definition, of which the kind must be there. -/
def PutRequest.ofJson (json : Json) : Decoded PutRequest := do
  let record ← json.asRecord "struct PutRewriterRequest" ["kind", "config", "info_logging"] false
  let start : Option String × Json.Fields × Option Logging := (none, [], none)
  let (kind, config, logging) ← record.fold start fun (kind, config, logging) key value =>
    match key with
    | "kind" => do return (some (← value.asText), config, logging)
    | "config" => do return (kind, ← value.asFields, logging)
    | _ => do return (kind, config, ← value.asOption Logging.ofJson)
  record.finish { kind := ← record.need "kind" kind, config, logging }

end QueryRewriting
