import QueryRewriting.Text.Blank
import QueryRewriting.Text.Quoted
import QueryRewriting.Threshold

/-! # Settings of a node

What an operator decides about a node: where it listens, what it is called, where definitions are
kept, how much it caches, who its peers are, and how requests are read. Settings are brought into a
normal form before they are checked.
-/

namespace QueryRewriting

open Text

/-- A connection to a database. -/
structure DatabaseSettings where
  dsn : String
  maxConnections : Nat
  deriving DecidableEq, Repr

/-- Bounds on the compiled rewriters of a node; a bound that is absent does not apply. -/
structure CacheSettings where
  maxBytes : Option Nat
  expireAfterWrite : Option Nat
  expireAfterAccess : Option Nat
  maxPartitions : Option Nat
  deriving DecidableEq, Repr

/-- No bounds. -/
def CacheSettings.unbounded : CacheSettings := ⟨none, none, none, none⟩

/-- Another node of the cluster. -/
structure Peer where
  nodeId : String
  baseUrl : String
  deriving DecidableEq, Repr

/-- The settings of a node. Times are in milliseconds, expiries in seconds. -/
structure Settings where
  httpBind : String
  adminBind : String
  logLevel : String
  nodeId : String
  backend : String
  storageTimeout : Nat
  database : Option DatabaseSettings
  cache : CacheSettings
  requestTimeout : Nat
  peers : List Peer
  paramNamespace : String
  threshold : Option String
  deriving DecidableEq, Repr

namespace Settings

/-- The partitions that a node serves when nothing else is said. -/
def defaultMaxPartitions : Nat := 1024

/-- The bounds on the cache of a node, which always limit its partitions. -/
def cacheBounds (s : Settings) : CacheSettings :=
  { s.cache with maxPartitions := some (s.cache.maxPartitions.getD defaultMaxPartitions) }

/-! ## Normal form -/

/-- An expiry of zero is no expiry. -/
def dropZero : Option Nat → Option Nat
  | some 0 => none
  | expiry => expiry

/-- A blank text is no text. -/
def dropBlank : Option String → Option String
  | some t => if isBlank t then none else some t
  | none => none

/-- A text without the slashes at its end. -/
def dropSlashes (t : String) : String :=
  String.ofList (dropEndWhile (· == '/') t.toList)

/-- The base of a peer's addresses, without blanks around it and slashes at its end. -/
def normalizeUrl (url : String) : String := dropSlashes (trim url)

/-- A text with the capitals of ASCII made small. -/
def lowerAscii (t : String) : String := String.ofList (t.toList.map Char.toLower)

/-- The normal form of settings. -/
def normalize (s : Settings) : Settings :=
  { s with
    backend := lowerAscii (trim s.backend)
    cache := { s.cache with
      expireAfterWrite := dropZero s.cache.expireAfterWrite
      expireAfterAccess := dropZero s.cache.expireAfterAccess }
    threshold := dropBlank s.threshold
    peers := s.peers.map fun peer => { peer with baseUrl := normalizeUrl peer.baseUrl } }

/-! ## Checks -/

/-- Why settings are refused. -/
inductive Fault where
  | blank (field : String)
  | notPositive (field : String)
  | unknownBackend
  | noDatabase
  | localPeer (nodeId : String)
  | duplicatePeer (nodeId : String)
  | peerUrl (nodeId : String)
  | paramNamespace
  | threshold (error : ThresholdError)
  deriving Repr

/-- What is said of settings that are refused. -/
def Fault.message : Fault → String
  | .blank field => s!"{field} must be non-empty."
  | .notPositive field => s!"{field} must be greater than zero."
  | .unknownBackend => "storage.backend must be one of memory or postgres."
  | .noDatabase => "storage.postgres is required when storage.backend is postgres."
  | .localPeer nodeId => s!"cluster.peers must not list the local node {quoted nodeId}."
  | .duplicatePeer nodeId => s!"cluster.peers contains duplicate node_id {quoted nodeId}."
  | .peerUrl nodeId =>
    s!"cluster.peers.base_url for {quoted nodeId} must start with http:// or https://."
  | .paramNamespace => "search.param_namespace must be non-empty and must not contain '.'."
  | .threshold error => s!"search.default_minimum_should_match is invalid: {error.message}"

/-- The stores there are. -/
def backends : List String := ["memory", "postgres"]

/-- Refuses settings on a condition. -/
def refuse (condition : Bool) (fault : Fault) : Except Fault Unit :=
  if condition then .error fault else .ok ()

/-- Checks the database of the backend that needs one. -/
def checkDatabase (s : Settings) : Except Fault Unit :=
  if s.backend = "postgres" then
    match s.database with
    | none => .error .noDatabase
    | some database => do
      refuse (isBlank database.dsn) (.blank "storage.postgres.dsn")
      refuse (database.maxConnections = 0) (.notPositive "storage.postgres.pool_max_conns")
  else .ok ()

/-- Whether a text is an address that peers can be reached at. -/
def isWebAddress (url : String) : Bool :=
  "http://".toList.isPrefixOf url.toList || "https://".toList.isPrefixOf url.toList

/-- Checks the peers in order; `seen` holds the names of those before. -/
def checkPeers (nodeId : String) (seen : List String) : List Peer → Except Fault Unit
  | [] => .ok ()
  | peer :: rest => do
    refuse (isBlank peer.nodeId) (.blank "cluster.peers.node_id")
    refuse (peer.nodeId = nodeId) (.localPeer nodeId)
    refuse (seen.contains peer.nodeId) (.duplicatePeer peer.nodeId)
    refuse (!isWebAddress peer.baseUrl) (.peerUrl peer.nodeId)
    checkPeers nodeId (peer.nodeId :: seen) rest

/-- Refuses a threshold that cannot be read. -/
def checkThreshold : Option String → Except Fault Unit
  | none => .ok ()
  | some text =>
    match Threshold.read text with
    | .ok _ => .ok ()
    | .error error => .error (.threshold error)

/-- Accepts settings that a node can run with; otherwise the first fault is reported. -/
def check (s : Settings) : Except Fault Unit := do
  refuse (isBlank s.nodeId) (.blank "node.node_id")
  refuse (isBlank s.httpBind) (.blank "service.http_bind")
  refuse (isBlank s.adminBind) (.blank "service.admin_bind")
  refuse (!backends.contains s.backend) .unknownBackend
  refuse (s.storageTimeout = 0) (.notPositive "storage.timeout_ms")
  checkDatabase s
  refuse (s.cache.maxBytes = some 0) (.notPositive "cache.max_bytes")
  refuse (s.cache.maxPartitions = some 0) (.notPositive "cache.max_partitions")
  refuse (s.requestTimeout = 0) (.notPositive "cluster.request_timeout_ms")
  checkPeers s.nodeId [] s.peers
  refuse (isBlank s.paramNamespace || s.paramNamespace.toList.contains '.') .paramNamespace
  checkThreshold s.threshold

end Settings

end QueryRewriting
