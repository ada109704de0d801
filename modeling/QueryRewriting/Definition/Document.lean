import QueryRewriting.Definition.Codec
import QueryRewriting.Json.Printer
import QueryRewriting.Json.Reader
import QueryRewriting.Text.Blank

/-! # Stored documents

A definition is stored as a JSON document. Two layouts can be read: the first one has no version and
keeps the configuration under `config`, the current one has version 3, keeps the configuration as
JSON text under `config_v_003` and may carry logging options. In both, the configuration may stand
inline or as text. Only the current layout is written.
-/

namespace QueryRewriting

open Json Text

/-- The type that every document of a rewriter states. -/
def documentType : String := "rewriter"

/-- Why a document holds no definition. -/
inductive DocumentFault where
  | notAnObject
  | otherType (type : String)
  | noType
  | noClass
  | badVersion (version : Json)
  | unsupportedVersion (version : Int)
  | malformedLogging (mismatch : Mismatch)
  | configTextSyntax
  | configTextNoObject
  | configShape
  deriving Repr

/-- What is said of a document that is refused. Of a config that is no JSON text it does not say
where the text goes wrong. -/
def DocumentFault.message : DocumentFault → String
  | .notAnObject => "Document must be a JSON object."
  | .otherType type => s!"Unexpected document type {quoted type}."
  | .noType => "Document type is missing."
  | .noClass => "Document class is missing."
  | .badVersion version => s!"Document version {version.print} is not an integer."
  | .unsupportedVersion version => s!"Unsupported document version {version}."
  | .malformedLogging mismatch => s!"info_logging is malformed: {mismatch.message}."
  | .configTextSyntax => "Config text is not valid JSON."
  | .configTextNoObject => "Config text must encode a JSON object."
  | .configShape => "Config must be a JSON object or JSON text."

/-- The text of a fault in the document stored for an id. -/
def DocumentFault.messageFor (fault : DocumentFault) (id : String) : String :=
  s!"Stored document for rewriter {quoted id} is invalid: {fault.message}"

/-- A configuration that stands inline or as text; absent, null and blank text are the empty one. -/
def readConfig : Option Json → Except DocumentFault Json.Fields
  | none => .ok []
  | some .null => .ok []
  | some (.object fields) => .ok fields
  | some (.text source) =>
    if isBlank source then .ok []
    else match Json.parse? source with
      | some (.object fields) => .ok fields
      | some _ => .error .configTextNoObject
      | none => .error .configTextSyntax
  | some _ => .error .configShape

/-- The version that a document states; without one it is of the first layout. -/
def readVersion : Option Json → Except DocumentFault Int
  | none => .ok legacyVersion
  | some .null => .ok legacyVersion
  | some value =>
    match value.asInt32 with
    | .ok version => .ok version
    | .error _ => .error (.badVersion value)

/-- The logging options of a document of the current layout. -/
def readLogging : Option Json → Except DocumentFault (Option Logging)
  | none => .ok none
  | some .null => .ok none
  | some value =>
    match Logging.ofJson value with
    | .ok logging => .ok (some logging)
    | .error mismatch => .error (.malformedLogging mismatch)

/-- Refuses a document that is not about a rewriter. -/
def checkType : Option Json → Except DocumentFault Unit
  | some (.text type) => if type = documentType then .ok () else .error (.otherType type)
  | _ => .error .noType

/-- The kind of the rewriter in a document, which must not be blank. -/
def readClass : Option Json → Except DocumentFault String
  | some (.text kind) => if isBlank kind then .error .noClass else .ok kind
  | _ => .error .noClass

/-- Reads the definition of an id from the fields of its document. -/
def Definition.ofFields (id : String) (fields : Json.Fields) : Except DocumentFault Definition := do
  checkType (fields.get? "type")
  let kind ← readClass (fields.get? "class")
  let version ← readVersion (fields.get? "version")
  if version = legacyVersion then
    let config ← readConfig (fields.get? "config")
    return { id, kind, config, logging := none, schemaVersion := version }
  else if version = currentVersion then
    let config ← readConfig (fields.get? "config_v_003")
    let logging ← readLogging (fields.get? "info_logging")
    return { id, kind, config, logging, schemaVersion := version }
  else .error (.unsupportedVersion version)

/-- Reads the definition of an id from its document. -/
def Definition.ofDocument (id : String) : Json → Except DocumentFault Definition
  | .object fields => Definition.ofFields id fields
  | _ => .error .notAnObject

/-- Writes a definition as a document of the current layout. -/
def Definition.toDocument (d : Definition) : Json :=
  let logging := match d.logging with
    | some logging => [("info_logging", logging.toJson)]
    | none => []
  .object ([("class", .text d.kind), ("config_v_003", .text (Json.object d.config).print)]
    ++ logging ++ [("type", .text documentType), ("version", Json.whole currentVersion)])

end QueryRewriting
