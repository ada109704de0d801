import QueryRewriting.Definition
import QueryRewriting.Json.Decode

/-! # The JSON form of definitions -/

namespace QueryRewriting

open Json

/-- The payloads of an info log by their names. -/
def LogPayload.names : List (String × LogPayload) :=
  [("NONE", .none), ("REWRITER_ID", .rewriterId), ("DETAIL", .detail)]

/-- The name of a payload in JSON. -/
def LogPayload.name : LogPayload → String
  | .none => "NONE"
  | .rewriterId => "REWRITER_ID"
  | .detail => "DETAIL"

/-- Reads logging options; without them nothing is logged. -/
def Logging.ofJson (json : Json) : Decoded Logging := do
  let record ← json.asRecord "struct LoggingConfig" ["sinks", "payload"] false
  let logging ← record.fold ({ sinks := [], payload := .none } : Logging) fun logging key value =>
    match key with
    | "sinks" => do return { logging with sinks := ← value.asList asText }
    | _ => do return { logging with payload := ← value.asVariant LogPayload.names false }
  record.finish logging

/-- The JSON form of the settings of an info log. -/
def Logging.toJson (logging : Logging) : Json :=
  .object [("payload", .text logging.payload.name), ("sinks", Json.texts logging.sinks)]

/-- The fields of a definition read so far. -/
structure DefinitionFields where
  id : Option String
  kind : Option String
  config : Json.Fields
  logging : Option Logging
  schemaVersion : Option Int

/-- Reads a definition, of which id, kind and version must be there. -/
def Definition.ofJson (json : Json) : Decoded Definition := do
  let record ← json.asRecord "struct RewriterDefinition"
    ["id", "kind", "config", "logging", "schema_version"] false
  let start : DefinitionFields := ⟨none, none, [], none, none⟩
  let read ← record.fold start fun read key value =>
    match key with
    | "id" => do return { read with id := some (← value.asText) }
    | "kind" => do return { read with kind := some (← value.asText) }
    | "config" => do return { read with config := ← value.asFields }
    | "logging" => do return { read with logging := ← value.asOption Logging.ofJson }
    | _ => do return { read with schemaVersion := some (← value.asInt32) }
  record.finish
    { id := ← record.need "id" read.id
      kind := ← record.need "kind" read.kind
      config := read.config
      logging := read.logging
      schemaVersion := ← record.need "schema_version" read.schemaVersion }

/-- Writes a definition; logging options that are absent are left out. -/
def Definition.toJson (d : Definition) : Json :=
  let logging := match d.logging with
    | some logging => [("logging", logging.toJson)]
    | none => []
  .object ([("config", .object d.config), ("id", .text d.id), ("kind", .text d.kind)] ++ logging
    ++ [("schema_version", Json.whole d.schemaVersion)])

end QueryRewriting
