import QueryRewriting.Node.Startup

/-! # The node's command line

Starts a node with the settings file named on the command line and writes its log lines. Nothing
listens behind the addresses; a host that serves them calls the service itself.
-/

namespace QueryRewriting.Startup

/-- The bytes of a file, if it can be read. -/
def readFile? (path : String) : IO (Option ByteArray) := do
  try return some (← IO.FS.readBinFile path) catch _ => return none

/-- Starts the node of a settings file and prints its log; a start that fails is an error of the
process. -/
def start (path : String) : IO UInt32 := do
  let content ← readFile? path
  let around : Surroundings := {
    file := fun _ => content
    database := fun _ => .error (.unavailable "error communicating with database: no driver")
    bind := fun _ => .ok () }
  let (lines, outcome) := run around path
  for line in lines do IO.println line.text
  match outcome with
  | .ok () => return 0
  | .error error =>
    IO.eprintln s!"Error: {error.message}"
    return 1

end QueryRewriting.Startup

open QueryRewriting

/-- Runs the program with its arguments. -/
def main (args : List String) : IO UInt32 := do
  match CommandLine.parse args with
  | .ok path => Startup.start path
  | .error .version =>
    IO.println CommandLine.versionText
    return 0
  | .error stop => return UInt32.ofNat stop.exitCode
