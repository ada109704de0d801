import QueryRewriting.Kind
import QueryRewriting.Store

/-! # Compiled instances

A partition keeps the rewriter of a definition together with what is known of its origin: the load
that made it, and how many invalidations the partition had seen before the definition was read.
-/

namespace QueryRewriting

open Text

/-- Why a partition gives no instance. -/
inductive LoadError where
  | notFound (id : String)
  | rewriter (error : RewriterError)
  | storeUnavailable (message : String)
  | invalidDocument (id : String) (fault : DocumentFault)
  deriving Repr, Inhabited

namespace LoadError

/-- What is said of a rewriter that could not be had. -/
def message : LoadError → String
  | .notFound id => s!"Rewriter {quoted id} is not defined."
  | .rewriter error => error.message
  | .storeUnavailable message => s!"Definition store is unavailable: {message}"
  | .invalidDocument id fault => fault.messageFor id

/-- A store that is set up wrongly is an unavailable one to those who load. -/
def ofStore : StoreError → LoadError
  | .unavailable message => .storeUnavailable message
  | .configuration message => .storeUnavailable message
  | .invalidDocument id fault => .invalidDocument id fault

/-- The end of a lookup whose instances were invalidated as fast as they were loaded. -/
def keptChanging (id : String) : LoadError :=
  .storeUnavailable s!"Rewriter {quoted id} kept changing while it was loading."

end LoadError

/-- The rewriter of a definition, as one load made it. The serial number of the load tells instances
of one partition apart; `stamp` is what the partition's clock showed before the store was read. -/
structure Instance where
  serial : Nat
  id : String
  definition : Definition
  rewriter : Rewriter
  stamp : Nat

namespace Instance

/-- The bytes that an instance takes besides its id and its rewriter. -/
def overhead : Nat := 192

/-- The greatest weight that is told; what is heavier counts as this. -/
def maxWeight : Nat := 4294967295

/-- The rough size of an instance in bytes. -/
def weight (made : Instance) : Nat :=
  min (overhead + made.id.utf8ByteSize + made.rewriter.size) maxWeight

/-- What is shown of an instance in diagnostics, given the time at which it was loaded. -/
def display (made : Instance) (loadedAt : String) : String :=
  "CompiledFactory \x7b rewriter_id: " ++ quoted made.id ++ ", loaded_at: " ++ loadedAt
    ++ ", weight: " ++ toString made.weight ++ ", .. \x7d"

/-- What an application of an instance logs in effect. -/
def payload (made : Instance) : LogPayload := made.definition.payload

/-- The instance that a load makes of the store's reply. -/
def compile (kinds : Kinds) (serial : Nat) (id : String) (stamp : Nat) :
    Except StoreError (Option Definition) → Except LoadError Instance
  | .error e => .error (.ofStore e)
  | .ok none => .error (.notFound id)
  | .ok (some definition) =>
    match kinds.load id definition with
    | .ok rewriter => .ok { serial, id, definition, rewriter, stamp }
    | .error e => .error (.rewriter e)

end Instance

end QueryRewriting
