import QueryRewriting.Settings
import QueryRewriting.Toml.Reader

/-! # Settings in TOML

The settings of a node are read from a document with one table for each concern. Keys that are not
known are ignored, and an array may stand for a table, with the fields in order. The reader only
accepts or refuses; what exactly is wrong with a document is not reported.
-/

namespace QueryRewriting.Settings

open Toml (Value)

/-! ## Tables -/

/-- The fields of a table, by key or by position. -/
inductive Group where
  | keyed (fields : Toml.Fields)
  | ordered (items : List Value)

/-- A value as a group of fields. A date has no field that anyone asks for. -/
def Group.ofValue? : Value → Option Group
  | .table _ fields => some (.keyed fields)
  | .array _ items => some (.ordered items)
  | .datetime _ => some (.keyed [])
  | _ => none

/-- The value of a key, or at the position of the key. -/
def Group.get? (group : Group) (position : Nat) (key : String) : Option Value :=
  match group with
  | .keyed fields => fields.lookup key
  | .ordered items => items[position]?

/-- Reads a value that must be there. -/
def Group.need {α : Type} (group : Group) (position : Nat) (key : String)
    (read : Value → Option α) : Option α := do
  read (← group.get? position key)

/-- Reads a value, for which there is a default if it is not there. -/
def Group.getD {α : Type} (group : Group) (position : Nat) (key : String) (default : α)
    (read : Value → Option α) : Option α :=
  match group.get? position key with
  | some value => read value
  | none => some default

/-- Reads a value that may be missing. -/
def Group.optional {α : Type} (group : Group) (position : Nat) (key : String)
    (read : Value → Option α) : Option (Option α) :=
  group.getD position key none fun value => (read value).map some

/-! ## Values -/

/-- Reads a text. -/
def textOf? : Value → Option String
  | .text t => some t
  | _ => none

/-- Reads a whole number of so many bits, without a sign. -/
def natOf? (bits : Nat) : Value → Option Nat
  | .integer n => if 0 ≤ n ∧ n < (Nat.pow 2 bits : Nat) then some n.toNat else none
  | _ => none

/-- Reads a list, item by item. -/
def listOf? {α : Type} (item : Value → Option α) : Value → Option (List α)
  | .array _ items => items.mapM item
  | _ => none

/-! ## Settings -/

/-- Reads the settings of a database. -/
def databaseOf? (value : Value) : Option DatabaseSettings := do
  let group ← Group.ofValue? value
  return {
    dsn := ← group.need 0 "dsn" textOf?
    maxConnections := ← group.need 1 "pool_max_conns" (natOf? 32) }

/-- Reads a peer. -/
def peerOf? (value : Value) : Option Peer := do
  let group ← Group.ofValue? value
  return {
    nodeId := ← group.need 0 "node_id" textOf?
    baseUrl := ← group.need 1 "base_url" textOf? }

/-- Reads the settings of the caches, all of which may be missing. -/
def cacheOf? (value : Value) : Option CacheSettings := do
  let group ← Group.ofValue? value
  return {
    maxBytes := ← group.optional 0 "max_bytes" (natOf? 64)
    expireAfterWrite := ← group.optional 1 "expire_after_write_secs" (natOf? 64)
    expireAfterAccess := ← group.optional 2 "expire_after_access_secs" (natOf? 64)
    maxPartitions := ← group.optional 3 "max_partitions" (natOf? 64) }

/-- The backend, its timeout and its database. In an array the database cannot be left out. -/
def storageOf? (value : Value) : Option (String × Nat × Option DatabaseSettings) := do
  let group ← Group.ofValue? value
  let backend ← group.need 0 "backend" textOf?
  let timeout ← group.getD 1 "timeout_ms" 2000 (natOf? 64)
  match group with
  | .keyed _ => return (backend, timeout, ← group.optional 2 "postgres" databaseOf?)
  | .ordered _ =>
    return (backend, timeout, some (← group.need 2 "postgres" databaseOf?))

/-- Reads how long a node waits for others, and which others there are. -/
def clusterOf? (value : Value) : Option (Nat × List Peer) := do
  let group ← Group.ofValue? value
  return (← group.getD 0 "request_timeout_ms" 5000 (natOf? 64),
    ← group.getD 1 "peers" [] (listOf? peerOf?))

/-- The namespace of parameters and the default threshold. -/
def searchOf? (value : Value) : Option (String × Option String) := do
  let group ← Group.ofValue? value
  return (← group.getD 0 "param_namespace" "qrw" textOf?,
    ← group.optional 1 "default_minimum_should_match" textOf?)

/-- Reads settings. -/
def ofFields? (fields : Toml.Fields) : Option Settings := do
  let group := Group.keyed fields
  let service ← group.need 0 "service" Group.ofValue?
  let node ← group.need 1 "node" Group.ofValue?
  let (backend, storageTimeout, database) ← group.need 2 "storage" storageOf?
  let cache ← group.getD 3 "cache" CacheSettings.unbounded cacheOf?
  let (requestTimeout, peers) ← group.getD 4 "cluster" (5000, []) clusterOf?
  let (paramNamespace, threshold) ← group.getD 5 "search" ("qrw", none) searchOf?
  return {
    httpBind := ← service.need 0 "http_bind" textOf?
    adminBind := ← service.need 1 "admin_bind" textOf?
    logLevel := ← service.need 2 "log_level" textOf?
    nodeId := ← node.need 0 "node_id" textOf?
    backend, storageTimeout, database, cache, requestTimeout, peers, paramNamespace, threshold }

/-- Why a file yields no settings. -/
inductive LoadError where
  | unreadable (path : String)
  | malformed (path : String)
  | refused (fault : Fault)
  deriving Repr

/-- What is said of settings that could not be loaded. -/
def LoadError.message : LoadError → String
  | .unreadable path => s!"Failed to read config file at {Text.quoted path}."
  | .malformed path => s!"Failed to parse config file at {Text.quoted path}."
  | .refused fault => fault.message

/-- The settings in a text that came from a path, in normal form and checked. -/
def parse (path text : String) : Except LoadError Settings :=
  match (Toml.read? text).bind ofFields? with
  | none => .error (.malformed path)
  | some written =>
    let settings := written.normalize
    match settings.check with
    | .ok () => .ok settings
    | .error fault => .error (.refused fault)

/-- The settings in the file at a path; `bytes` is its content, if it could be read. -/
def load (path : String) (bytes : Option ByteArray) : Except LoadError Settings :=
  match bytes.bind String.fromUTF8? with
  | none => .error (.unreadable path)
  | some text => parse path text

end QueryRewriting.Settings
