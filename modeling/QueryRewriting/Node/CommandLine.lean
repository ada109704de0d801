/-! # The command line of a node

One option names the settings file; it is required and may be given once. Help and version act as
soon as they are read.
-/

namespace QueryRewriting.CommandLine

/-- The version of the program. -/
def version : String := "0.1.0"

/-- What the program says of its version. -/
def versionText : String := s!"qrw-node {version}"

/-- Why a command line does not run a node. -/
inductive Stop where
  | help
  | version
  | missingArgument
  | invalidValue
  | unknownArgument
  | conflict
  | tooManyValues
  deriving DecidableEq, Repr

/-- Help and version are no failures. -/
def Stop.exitCode : Stop → Nat
  | .help => 0
  | .version => 0
  | _ => 2

/-- What has been read: the file, and an option whose value has not been taken over yet. -/
structure State where
  file : Option String
  pending : Option (Option String)

/-- Takes a settings file, which may be given once and must not be empty. -/
def State.set (state : State) (value : String) : Except Stop State :=
  if state.file.isSome then .error .conflict
  else if value.isEmpty then .error .invalidValue
  else .ok { state with file := some value }

/-- Takes the value of a pending option over; there has to be one. -/
def State.settle (state : State) : Except Stop State :=
  match state.pending with
  | none => .ok state
  | some none => .error .invalidValue
  | some (some value) => State.set { state with pending := none } value

/-- Takes a settings file that was given together with its option. -/
def State.attach (state : State) (value : String) : Except Stop State := do
  State.set (← state.settle) value

/-- Waits for a settings file as the next argument. -/
def State.expect (state : State) : Except Stop State := do
  return { ← state.settle with pending := some none }

/-- An option without a value, which ends the reading. -/
def State.flag (state : State) (stop : Stop) : Except Stop State := do
  let _ ← state.settle
  .error stop

/-- Reads an option of two dashes, with a value behind an equals sign or without. -/
def State.long (state : State) (cs : List Char) : Except Stop State :=
  let name := String.ofList (cs.takeWhile (· ≠ '='))
  let value := match cs.dropWhile (· ≠ '=') with
    | [] => none
    | _ :: rest => some (String.ofList rest)
  match name, value with
  | "config", some value => state.attach value
  | "config", none => state.expect
  | "help", none => state.flag .help
  | "version", none => state.flag .version
  | "help", some _ => .error .tooManyValues
  | "version", some _ => .error .tooManyValues
  | _, _ => .error .unknownArgument

/-- Reads options of one dash; a value may follow the letter directly. -/
def State.short (state : State) (cs : List Char) : Except Stop State :=
  match cs with
  | ['c'] => state.expect
  | 'c' :: '=' :: value => state.attach (String.ofList value)
  | 'c' :: value => state.attach (String.ofList value)
  | 'h' :: _ => state.flag .help
  | 'V' :: _ => state.flag .version
  | _ => .error .unknownArgument

/-- Reads an argument that is no option: the value of the pending one. -/
def State.plain (state : State) (value : String) : Except Stop State :=
  match state.pending with
  | some none => .ok { state with pending := some (some value) }
  | _ => .error .unknownArgument

/-- Reads the arguments; behind two hyphens nothing is an option or a value. -/
def State.read (state : State) : List String → Except Stop State
  | [] => state.settle
  | arg :: rest => do
    match arg.toList with
    | ['-', '-'] => if rest.isEmpty then state.settle else .error .unknownArgument
    | '-' :: '-' :: name => State.read (← state.long name) rest
    | ['-'] => State.read (← state.plain arg) rest
    | '-' :: names => State.read (← state.short names) rest
    | _ => State.read (← state.plain arg) rest

/-- The settings file that the arguments name, or why the program stops. -/
def parse (args : List String) : Except Stop String := do
  match (← State.read ⟨none, none⟩ args).file with
  | some file => .ok file
  | none => .error .missingArgument

end QueryRewriting.CommandLine
