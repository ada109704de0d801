import QueryRewriting.Json.Value

/-! # Request parameters

The parameters of a request form a tree of objects. A dotted path addresses a value in it; a path
that leads nowhere and a value of another type both read as absent. The parameters attached to a
rewriter are mounted below the parameter namespace and the rewriter's id.
-/

namespace QueryRewriting

open Decimal

/-- The parameters of one request. -/
structure Params where
  root : Json.Fields
  deriving Repr

namespace Params

/-- No parameters. -/
def empty : Params := ⟨[]⟩

/-- The fields of an object; anything else counts as an object without fields. -/
def fieldsOrEmpty : Option Json → Json.Fields
  | some (.object fields) => fields
  | _ => []

/-- The fields below an object, with `params` put into the object under `id`. What stands there and
is no object is replaced. -/
def mountAt (fields : Json.Fields) (id : String) (params : Json.Fields) : Json.Fields :=
  fields.set id (.object ((fieldsOrEmpty (fields.get? id)).extend params))

/-- Puts the parameters of a rewriter under its id and that under the namespace; what stood there is
kept, field by field. -/
def mount (tree : Params) (paramNamespace id : String) (params : Json.Fields) : Params :=
  ⟨tree.root.set paramNamespace
    (.object (mountAt (fieldsOrEmpty (tree.root.get? paramNamespace)) id params))⟩

/-- The value below a value along the keys of a path. -/
def descend (value : Json) : List String → Option Json
  | [] => some value
  | key :: rest =>
    match value with
    | .object fields =>
      match Json.Fields.get? fields key with
      | some below => descend below rest
      | none => none
    | _ => none

/-- Cuts a path at its dots; `key` holds the characters of the current key, backwards. -/
def splitPath (key : List Char) : List Char → List String
  | [] => [String.ofList key.reverse]
  | c :: rest =>
    if c = '.' then String.ofList key.reverse :: splitPath [] rest else splitPath (c :: key) rest

/-- The value at a path. -/
def get? (tree : Params) (path : String) : Option Json :=
  descend (.object tree.root) (splitPath [] path.toList)

/-- The value at a path, if it is a text. -/
def text? (tree : Params) (path : String) : Option String :=
  match tree.get? path with
  | some (.text t) => some t
  | _ => none

/-- An item of a list, if it is a text. -/
def textItem? : Json → Option String
  | .text t => some t
  | _ => none

/-- The list of texts at a path; empty unless every item is a text. -/
def texts (tree : Params) (path : String) : List String :=
  match tree.get? path with
  | some (.list items) =>
    (items.mapM textItem?).getD []
  | _ => []

/-- The value at a path, if it is a truth value. -/
def bool? (tree : Params) (path : String) : Option Bool :=
  match tree.get? path with
  | some (.bool b) => some b
  | _ => none

/-- The whole number of 32 bits at a path. -/
def int32? (tree : Params) (path : String) : Option Int :=
  match tree.get? path with
  | some (.number (.whole n)) => if -2147483648 ≤ n ∧ n ≤ 2147483647 then some n else none
  | _ => none

/-- The number at a path, in double precision. -/
def double? (tree : Params) (path : String) : Option Double :=
  match tree.get? path with
  | some (.number n) => some n.toDouble
  | _ => none

/-- The number at a path, rounded to double and then to single precision. -/
def single? (tree : Params) (path : String) : Option Single :=
  (tree.double? path).map Binary.convert

end Params

end QueryRewriting
