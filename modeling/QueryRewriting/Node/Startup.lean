import QueryRewriting.Cache.Instance
import QueryRewriting.Node.CommandLine
import QueryRewriting.Node.LogFilter
import QueryRewriting.Node.SocketAddress
import QueryRewriting.Settings.Reader

/-! # Starting a node

The settings are read first, then both addresses, of which the administrative one must not be
reachable from other machines. Only then is the store opened, and at last the two servers come up.
-/

namespace QueryRewriting

/-- A line of the log, with its fields in order. -/
structure LogLine where
  level : LogLevel
  target : String
  message : String
  fields : List (String × String)
  deriving DecidableEq, Repr

/-- The text of a line of the log. -/
def LogLine.text (line : LogLine) : String :=
  " ".intercalate (s!"{line.level.name} {line.target}: {line.message}"
    :: line.fields.map fun (name, value) => s!"{name}={value}")

namespace Startup

/-- Why a node does not come up. The last two come from its surroundings. -/
inductive StartError where
  | settings (error : Settings.LoadError)
  | address
  | notLoopback
  | store (error : StoreError)
  | bind (message : String)
  deriving Repr

/-- What is said of a start that failed. -/
def StartError.message : StartError → String
  | .settings error => error.message
  | .address => "invalid socket address syntax"
  | .notLoopback => "admin_bind must be a loopback address."
  | .store error => (LoadError.ofStore error).message
  | .bind message => message

/-- What a node finds around it: the contents of files, the stores in databases, and whether an
address can be had. -/
structure Surroundings where
  file : String → Option ByteArray
  database : DatabaseSettings → Except StoreError Store
  bind : SocketAddress → Except String Unit

/-- The target of the lines that a node writes about itself. -/
def target : String := "qrw_node"

/-- The line that tells where a server listens. -/
def listening (name : String) (address : SocketAddress) (fields : List (String × String)) :
    LogLine where
  level := .info
  target := target
  message := s!"{name} server listening."
  fields := (if name = "HTTP" then "http_addr" else "admin_addr", address.text) :: fields

/-- The addresses at which the two servers listen; that of the administrators must be a local one.
-/
def addresses (settings : Settings) : Except StartError (SocketAddress × SocketAddress) :=
  match SocketAddress.read? settings.httpBind, SocketAddress.read? settings.adminBind with
  | some http, some admin =>
    if admin.ip.isLoopback then .ok (http, admin) else .error .notLoopback
  | _, _ => .error .address

/-- Brings both servers up; the lines of the first remain when the second one fails. -/
def bindAll (around : Surroundings) (settings : Settings) (http admin : SocketAddress) :
    List LogLine × Except StartError Unit :=
  match around.bind http with
  | .error message => ([], .error (.bind message))
  | .ok () =>
    let first := listening "HTTP" http [("node_id", settings.nodeId)]
    match around.bind admin with
    | .error message => ([first], .error (.bind message))
    | .ok () => ([first, listening "Admin" admin []], .ok ())

/-- Starts a node with the settings in a file: the lines it writes, and whether it came up. -/
def run (around : Surroundings) (path : String) : List LogLine × Except StartError Unit :=
  match Settings.load path (around.file path) with
  | .error error => ([], .error (.settings error))
  | .ok settings =>
    let ready := do
      let bound ← addresses settings
      let _ ← (Store.ofSettings around.database settings).mapError .store
      return bound
    match ready with
    | .error error => ([], .error error)
    | .ok (http, admin) =>
      let (lines, outcome) := bindAll around settings http admin
      let filter := LogFilter.read settings.logLevel
      (lines.filter fun line => filter.shows line.level line.target, outcome)

end Startup

end QueryRewriting
