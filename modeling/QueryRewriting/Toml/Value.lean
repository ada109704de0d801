import QueryRewriting.Decimal.Binary

/-! # TOML values

A document is a table. What may still be added to a table depends on how it came into being, so
every table carries its origin. -/

namespace QueryRewriting.Toml

open Decimal

/-- How a table came into being: written between braces, by a header of its own, by a header of a
table below it, or by a dotted key. -/
inductive Origin where
  | inline
  | header
  | implied
  | dotted
  deriving DecidableEq, Repr

/-- A value of a document. `array true` holds the tables of an array of tables. -/
inductive Value where
  | text (value : String)
  | integer (value : Int)
  | float (value : Double)
  | boolean (value : Bool)
  | datetime (text : String)
  | array (ofTables : Bool) (items : List Value)
  | table (origin : Origin) (fields : List (String × Value))
  deriving Repr, Inhabited

/-- The fields of a table. -/
abbrev Fields := List (String × Value)

/-- What is done to the table at the end of a path, if it can be done. -/
abbrev Change := Origin → Fields → Option (Origin × Fields)

/-- Puts a value under a key, replacing the one there. -/
def Fields.replace (fields : Fields) (key : String) (value : Value) : Fields :=
  fields.map fun (k, v) => if k = key then (k, value) else (k, v)

/-- Changes the table at a path of keys; tables that are missing on the way are made. A path leads
through an array of tables into its last table, and never into a table between braces; a dotted path
leads into no table that has a header. -/
def changeAt (dotted : Bool) (change : Change) : List String → Change
  | [], origin, fields => change origin fields
  | key :: rest, origin, fields =>
    match fields.lookup key with
    | none => do
      let (made, inner) ← changeAt dotted change rest (if dotted then .dotted else .implied) []
      return (origin, fields ++ [(key, .table made inner)])
    | some (.table .inline _) => none
    | some (.table inside inner) =>
      if dotted && inside == .header then none
      else do
        let (inside, inner) ← changeAt dotted change rest inside inner
        return (origin, Fields.replace fields key (.table inside inner))
    | some (.array true items) =>
      match items.getLast? with
      | some (.table inside inner) => do
        let (inside, inner) ← changeAt dotted change rest inside inner
        return (origin, Fields.replace fields key
          (.array true (items.dropLast ++ [.table inside inner])))
      | _ => none
    | some _ => none

/-- Adds a value under a key that is not there yet. A table made by dotted keys takes values by
dotted keys only, and any other table only by a single key. -/
def addValue (dotted : Bool) (key : String) (value : Value) : Change := fun origin fields =>
  if (origin == .dotted) != dotted then none
  else if (fields.lookup key).isSome then none
  else some (origin, fields ++ [(key, value)])

/-- Adds a value under a key; what a dotted key creates on its way is closed to headers. -/
def addAt (path : List String) (key : String) (value : Value) : Change :=
  changeAt (!path.isEmpty) (addValue (!path.isEmpty) key value) path

/-- Opens the table of a header. One that only headers below it have made so far is taken over;
no other table is opened twice. -/
def openTable (key : String) : Change := fun origin fields =>
  match fields.lookup key with
  | none => some (origin, fields ++ [(key, .table .header [])])
  | some (.table .implied inner) => some (origin, Fields.replace fields key (.table .header inner))
  | some _ => none

/-- Adds an empty table to the list under a key. -/
def openItem (key : String) : Change := fun origin fields =>
  match fields.lookup key with
  | none => some (origin, fields ++ [(key, .array true [.table .header []])])
  | some (.array true items) =>
    some (origin, Fields.replace fields key (.array true (items ++ [.table .header []])))
  | some _ => none

end QueryRewriting.Toml
