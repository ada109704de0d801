import QueryRewriting.Definition.Document
import QueryRewriting.Settings

/-! # The definition store

Definitions are stored as documents, one under each id. A store that has failed refuses every
operation and keeps what it holds. It counts the reads it was asked for while it worked.
-/

namespace QueryRewriting

open Text

/-- Why a store gives no answer. -/
inductive StoreError where
  | unavailable (message : String)
  | invalidDocument (id : String) (fault : DocumentFault)
  | configuration (message : String)
  deriving Repr

/-- What is said of a store that failed. -/
def StoreError.message : StoreError → String
  | .unavailable message => s!"Definition store is unavailable: {message}"
  | .invalidDocument id fault => fault.messageFor id
  | .configuration message => s!"Invalid storage configuration: {message}"

/-- The documents by id, whether the store works, and how often it was read. -/
structure Store where
  documents : Json.Fields
  available : Bool
  reads : Nat
  deriving Repr

namespace Store

/-- A working store without documents. -/
def empty : Store := { documents := [], available := true, reads := 0 }

/-- The store that settings ask for; `connect` opens the one in a database. -/
def ofSettings (connect : DatabaseSettings → Except StoreError Store) (settings : Settings) :
    Except StoreError Store :=
  match settings.backend, settings.database with
  | "memory", _ => .ok empty
  | "postgres", some database => connect database
  | "postgres", none =>
    .error (.configuration "storage.postgres is required for the postgres backend.")
  | other, _ => .error (.configuration s!"Unknown storage backend {quoted other}.")

/-- How many documents there are. -/
def size (store : Store) : Nat := store.documents.length

/-- The error of a store that is out of order. -/
def outage : StoreError := .unavailable "Simulated outage."

/-- Lets an operation through if the store works. -/
def permit (store : Store) : Except StoreError Unit :=
  if store.available then .ok () else .error outage

/-- The definition that the document of an id holds, if there is a document. -/
def find? (store : Store) (id : String) : Except StoreError (Option Definition) :=
  match store.documents.get? id with
  | none => .ok none
  | some document =>
    match Definition.ofDocument id document with
    | .ok definition => .ok (some definition)
    | .error fault => .error (.invalidDocument id fault)

/-- Begins a read: one that the store lets through is counted. -/
def beginRead (store : Store) : Except StoreError Store := do
  store.permit
  return { store with reads := store.reads + 1 }

/-- Reads the definition of an id; a read that the store lets through is counted. -/
def get (store : Store) (id : String) : Except StoreError (Option Definition) × Store :=
  match store.beginRead with
  | .ok store => (store.find? id, store)
  | .error e => (.error e, store)

/-- Puts a document under an id as it is, whether the store works or not. -/
def insertDocument (store : Store) (id : String) (document : Json) : Store :=
  { store with documents := store.documents.set id document }

/-- Writes the document of a definition under its id. -/
def put (store : Store) (definition : Definition) : Except StoreError Store := do
  store.permit
  return store.insertDocument definition.id definition.toDocument

/-- Drops the document of an id; answers whether there was one. -/
def delete (store : Store) (id : String) : Except StoreError (Bool × Store) := do
  store.permit
  return ((store.documents.get? id).isSome,
    { store with documents := store.documents.erase id })

end Store

end QueryRewriting
