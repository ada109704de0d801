import QueryRewriting.Json.Tagged

/-! # Commands between nodes

After a write every node of the cluster is told which of its compiled rewriters to renew or to drop.
-/

namespace QueryRewriting

open Json

/-- What a node is told to do with its compiled rewriters. Clearing without an id drops all. -/
inductive Command where
  | reload (id : String)
  | clear (id : Option String)
  deriving DecidableEq, Repr

namespace Command

/-- The id that a command is about; one that is about all names none. -/
def id? : Command → Option String
  | reload id => some id
  | clear id => id

/-- The name of a command in JSON. -/
def name : Command → String
  | reload _ => "reload"
  | clear _ => "clear"

/-- The JSON form; clearing everything names no id. -/
def toJson (c : Command) : Json :=
  match c.id? with
  | some id => .object [("command", .text c.name), ("rewriter_id", .text id)]
  | none => .object [("command", .text c.name)]

/-- The forms of a command. -/
inductive Form where
  | reload
  | clear

/-- The forms of a command by their names. -/
def Form.names : List (String × Form) := [("reload", .reload), ("clear", .clear)]

/-- Reads the id of a reload, which must be there; fields that are not known are passed over. -/
def reloadFields (id : Option String) : Fields → Decoded Command
  | [] => do return .reload (← need "rewriter_id" id)
  | ("rewriter_id", json) :: rest => do
    once "rewriter_id" id
    reloadFields (some (← json.asText)) rest
  | _ :: rest => reloadFields id rest

/-- Reads the id of a clearing, which may be left out. -/
def clearFields (id : Option (Option String)) : Fields → Decoded Command
  | [] => .ok (.clear (id.getD none))
  | ("rewriter_id", json) :: rest => do
    once "rewriter_id" id
    clearFields (some (← json.asOption asText)) rest
  | _ :: rest => clearFields id rest

/-- Reads a command, in the form of an object or of a list. -/
def ofJson : Json → Decoded Command
  | .object fields => do
    match ← findTag "command" Form.names none fields with
    | .reload => reloadFields none fields
    | .clear => clearFields none fields
  | .list [] => .error (.missingField "command")
  | .list (tag :: items) => do
    match ← asTag Form.names tag, items with
    | .reload, [] => .error (tooShort "struct variant NodeCommand::Reload" 0 1)
    | .reload, id :: more =>
      let id ← id.asText
      if more.isEmpty then return .reload id
      .error (excess true items.length 1)
    | .clear, [] => return .clear none
    | .clear, id :: more =>
      let id ← id.asOption asText
      if more.isEmpty then return .clear id
      .error (excess true items.length 1)
  | value => .error (.wrongType value "internally tagged enum NodeCommand")

end Command

/-- What a node answers to a command: how many of its partitions the command touched. -/
structure Reply where
  nodeId : String
  partitions : Nat
  deriving DecidableEq, Repr

/-- The JSON form of a reply. -/
def Reply.toJson (reply : Reply) : Json :=
  .object [("node_id", .text reply.nodeId), ("partitions", Json.whole reply.partitions)]

end QueryRewriting
