import QueryRewriting.Json.Value
import QueryRewriting.Settings

/-! # The JSON form of settings

Everything that was set, and the limit on partitions that applies whether it was set or not.
-/

namespace QueryRewriting

open Json

/-- The JSON form of a peer. -/
def Peer.toJson (peer : Peer) : Json :=
  .object [("base_url", .text peer.baseUrl), ("node_id", .text peer.nodeId)]

/-- The JSON form of the settings of a database. -/
def DatabaseSettings.toJson (database : DatabaseSettings) : Json :=
  .object [("dsn", .text database.dsn), ("pool_max_conns", whole database.maxConnections)]

/-- A whole number that may be missing. -/
def optionalWhole : Option Nat → Json
  | some n => whole n
  | none => .null

/-- The fields of the settings of the caches. -/
def CacheSettings.toFields (cache : CacheSettings) : Fields :=
  [("max_bytes", optionalWhole cache.maxBytes),
    ("expire_after_write_secs", optionalWhole cache.expireAfterWrite),
    ("expire_after_access_secs", optionalWhole cache.expireAfterAccess),
    ("max_partitions", optionalWhole cache.maxPartitions)]

/-- The JSON form of settings, with what is in force where they leave something open. -/
def Settings.toJson (s : Settings) : Json :=
  .object (s.cache.toFields ++ [
    ("service", Json.texts [s.httpBind, s.adminBind, s.logLevel]),
    ("node_id", .text s.nodeId), ("backend", .text s.backend),
    ("storage_timeout_ms", whole s.storageTimeout),
    ("postgres", (s.database.map DatabaseSettings.toJson).getD .null),
    ("effective_max_partitions", optionalWhole s.cacheBounds.maxPartitions),
    ("request_timeout_ms", whole s.requestTimeout),
    ("peers", .list (s.peers.map Peer.toJson)),
    ("param_namespace", .text s.paramNamespace),
    ("default_minimum_should_match", (s.threshold.map .text).getD .null)])

end QueryRewriting
