import QueryRewriting.Json.Value
import QueryRewriting.Text.Quoted

/-! # Rewriter definitions

A definition says of which kind a rewriter is, how it is configured, and what it writes to the info
log when it is applied.
-/

namespace QueryRewriting

open Text

/-! ## Logging -/

/-- How much of an application is logged. -/
inductive LogPayload where
  | none
  | rewriterId
  | detail
  deriving DecidableEq, Repr

/-- Where and how much is logged when a rewriter is applied. -/
structure Logging where
  sinks : List String
  payload : LogPayload
  deriving DecidableEq, Repr

/-- The only sink there is. -/
def tracingSink : String := "tracing"

/-- What is logged in effect: nothing without a sink. -/
def Logging.effectivePayload (logging : Logging) : LogPayload :=
  if logging.sinks.isEmpty then .none else logging.payload

/-- What is wrong with the settings of an info log: every sink that is not known, and a payload that
is written nowhere. -/
def Logging.problems (logging : Logging) : List String :=
  (logging.sinks.filter (· ≠ tracingSink)).map (fun sink =>
    s!"info_logging.sinks contains unknown sink {quoted sink}.")
  ++ if logging.payload ≠ .none ∧ logging.sinks = [] then
      ["info_logging.sinks must be non-empty when payload is not NONE."]
    else []

/-! ## Definitions -/

/-- The version of definitions written before versions existed. -/
def legacyVersion : Int := 1

/-- The version of definitions that are written now. -/
def currentVersion : Int := 3

/-- A rewriter as an operator defines it. -/
structure Definition where
  id : String
  kind : String
  config : Json.Fields
  logging : Option Logging
  schemaVersion : Int
  deriving Repr

/-- What the rewriter of a definition logs in effect. -/
def Definition.payload (d : Definition) : LogPayload :=
  (d.logging.map Logging.effectivePayload).getD .none

/-- Whether two definitions say the same; the fields of a config may stand in any order. -/
def Definition.same (a b : Definition) : Bool :=
  a.id == b.id && a.kind == b.kind && Json.same (.object a.config) (.object b.config)
    && a.logging == b.logging && a.schemaVersion == b.schemaVersion

/-! ## Identifiers -/

/-- The longest id, in bytes. -/
def maxIdLength : Nat := 128

/-- The characters of an id. Ids are segments of parameter paths, so the dot is none of them. -/
def isIdChar (c : Char) : Bool := c.isAlphanum || c == '_' || c == '-'

/-- Why a text is no id. -/
inductive IdFault where
  | empty
  | tooLong
  | badCharacter (id : String)
  deriving DecidableEq, Repr

/-- What is said of an id that is refused. -/
def IdFault.message : IdFault → String
  | .empty => "Rewriter id must be non-empty."
  | .tooLong => s!"Rewriter id must be at most {maxIdLength} characters."
  | .badCharacter id =>
    s!"Rewriter id {quoted id} may only contain ASCII letters, digits, '_' or '-'."

/-- Why an id is refused, if it is: the first of the reasons in the order in which they are looked
for. -/
def idFault? (id : String) : Option IdFault :=
  if id.isEmpty then some .empty
  else if maxIdLength < id.utf8ByteSize then some .tooLong
  else if !id.toList.all isIdChar then some (.badCharacter id)
  else none

end QueryRewriting
