import QueryRewriting.Composition
import QueryRewriting.Definition
import QueryRewriting.Params
import QueryRewriting.Partition

/-! # Kinds of rewriters

A kind turns the configuration of a definition into a rewriter, or lists everything that is wrong
with it. The kinds of a node are looked up by the name that definitions use.
-/

namespace QueryRewriting

open Text

/-- What a rewriter can see of the request it works on. -/
structure RewriteContext where
  partition : Partition
  rewriterId : String
  paramNamespace : String
  params : Params

namespace RewriteContext

/-- The path of a parameter of the rewriter that is run. -/
def paramPath (context : RewriteContext) (key : String) : String :=
  s!"{context.paramNamespace}.{context.rewriterId}.{key}"

/-- A parameter that is a truth value. -/
def paramBool? (context : RewriteContext) (key : String) : Option Bool :=
  context.params.bool? (context.paramPath key)

/-- A parameter that is a number, in single precision. -/
def paramSingle? (context : RewriteContext) (key : String) : Option Decimal.Single :=
  context.params.single? (context.paramPath key)

/-- A parameter that is a list of texts; whatever else is in the list is passed over. -/
def paramTexts (context : RewriteContext) (key : String) : List String :=
  context.params.texts (context.paramPath key)

end RewriteContext

/-- Why a definition has no rewriter, or why its rewriter failed. -/
inductive RewriterError where
  | unknownKind (kind : String)
  | invalidConfig (id : String) (messages : List String)
  | failed (id : String) (message : String)
  deriving DecidableEq, Repr

/-- What is said of a rewriter that could not be built or run. -/
def RewriterError.message : RewriterError → String
  | .unknownKind kind => s!"Unknown rewriter kind {quoted kind}."
  | .invalidConfig id messages =>
    s!"Invalid config for rewriter {quoted id}: " ++ " ".intercalate messages
  | .failed id message => s!"Rewriter {quoted id} failed: {message}"

/-- A configured rewriter: its rough size in bytes, and what it does to an expansion, with the notes
it takes for the info log. -/
structure Rewriter where
  id : String
  size : Nat
  apply : RewriteContext → Expansion → Except RewriterError (Expansion × List String)

/-- A kind of rewriters: the size of one that has not been configured, and how one is made, or
everything that is wrong with a configuration. -/
structure Kind where
  name : String
  bareSize : String → Nat
  compile : String → Json.Fields → Except (List String) Rewriter

/-- The kinds that a node knows, each name once. -/
structure Kinds where
  kinds : List Kind

namespace Kinds

/-- No kinds at all. -/
def empty : Kinds := ⟨[]⟩

/-- Adds a kind in place of the one of the same name. -/
def register (kinds : Kinds) (kind : Kind) : Kinds :=
  ⟨kind :: kinds.kinds.filter (·.name ≠ kind.name)⟩

/-- The names of the kinds in increasing order. -/
def names (kinds : Kinds) : List String :=
  (kinds.kinds.map (·.name)).mergeSort (fun a b => a ≤ b)

/-- The form in which the kinds are shown to those who look for faults. -/
def display (kinds : Kinds) : String :=
  "KindRegistry \x7b kinds: " ++ quotedList kinds.names ++ " \x7d"

/-- The kind of a name. -/
def resolve (kinds : Kinds) (name : String) : Except RewriterError Kind :=
  match kinds.kinds.find? (·.name == name) with
  | some kind => .ok kind
  | none => .error (.unknownKind name)

/-- Builds the rewriter of a definition, by its kind. -/
def load (kinds : Kinds) (id : String) (definition : Definition) :
    Except RewriterError Rewriter := do
  let kind ← kinds.resolve definition.kind
  match kind.compile id definition.config with
  | .ok rewriter => .ok rewriter
  | .error messages => .error (.invalidConfig id messages)

/-- Everything that is wrong with a definition. Only an unknown kind ends the search. -/
def problems (kinds : Kinds) (definition : Definition) : Except RewriterError (List String) := do
  let kind ← kinds.resolve definition.kind
  let config := match kind.compile definition.id definition.config with
    | .ok _ => []
    | .error messages => messages
  return config ++ (definition.logging.map Logging.problems).getD []

/-- Accepts a definition without problems. -/
def check (kinds : Kinds) (definition : Definition) : Except RewriterError Unit := do
  let messages ← kinds.problems definition
  if messages.isEmpty then return ()
  else .error (.invalidConfig definition.id messages)

end Kinds

end QueryRewriting
