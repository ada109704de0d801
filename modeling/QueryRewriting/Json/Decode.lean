import QueryRewriting.Json.Value
import QueryRewriting.Text.Quoted

/-! # Reading domain values out of JSON

Why a JSON value does not have the wanted shape, the one text of each reason, and the shapes that
have no structure of their own. A record is given as an object or as a list of its fields in
declaration order.
-/

namespace QueryRewriting

open Decimal Text

/-- Why a JSON value does not have the wanted shape. -/
inductive Mismatch where
  | wrongType (found : Json) (expected : String)
  | outOfRange (found : Int) (expected : String)
  | missingField (name : String)
  | duplicateField (name : String)
  | unknownField (name : String) (known : List String)
  | unknownVariant (name : String) (known : List String)
  | wrongLength (length : Nat) (expected : String)
  | surplus (length : Nat)
  | noVariant (found : Json)
  | notOneKey (fields : List (String × Json))
  | noAlternative (name : String)
  deriving Repr

/-- What a value is, for a reader who expected something else. -/
def Json.describe : Json → String
  | .null => "null"
  | .bool true => "boolean `true`"
  | .bool false => "boolean `false`"
  | .number (.whole n) => s!"integer `{n}`"
  | .number (.float x) => s!"floating point `{Layout.double.text x}`"
  | .text t => s!"string {quoted t}"
  | .list _ => "sequence"
  | .object _ => "map"

/-- Names to choose from, as a message lists them. -/
def choices (names : List String) : String :=
  match names.map fun name => s!"`{name}`" with
  | [] => "there are no fields"
  | [a] => a
  | [a, b] => s!"{a} or {b}"
  | several => "one of " ++ ", ".intercalate several

/-- What is said of a value that does not fit. -/
def Mismatch.message : Mismatch → String
  | .wrongType found expected => s!"invalid type: {found.describe}, expected {expected}"
  | .outOfRange found expected => s!"invalid value: integer `{found}`, expected {expected}"
  | .missingField name => s!"missing field `{name}`"
  | .duplicateField name => s!"duplicate field `{name}`"
  | .unknownField name known => s!"unknown field `{name}`, expected {choices known}"
  | .unknownVariant name known => s!"unknown variant `{name}`, expected {choices known}"
  | .wrongLength length expected => s!"invalid length {length}, expected {expected}"
  | .surplus length => s!"invalid length {length}, expected fewer elements in array"
  | .noVariant found => s!"invalid type: {found.describe}, expected string or map"
  | .notOneKey _ => "invalid value: map, expected map with a single key"
  | .noAlternative name => s!"data did not match any variant of untagged enum {name}"

/-- The result of reading a domain value out of JSON. -/
abbrev Decoded (α : Type) := Except Mismatch α

namespace Json

/-- Reads a text. -/
def asText : Json → Decoded String
  | .text t => .ok t
  | value => .error (.wrongType value "a string")

/-- Reads a truth value. -/
def asBool : Json → Decoded Bool
  | .bool b => .ok b
  | value => .error (.wrongType value "a boolean")

/-- Reads an object; of fields of one name the last one counts. -/
def asFields : Json → Decoded Fields
  | .object fields => .ok (canonicalFields [] fields)
  | value => .error (.wrongType value "a map")

/-- A whole number between two bounds; `name` is what the bounds are called. -/
def asWhole (name : String) (low high : Int) : Json → Decoded Int
  | .number (.whole n) => if low ≤ n ∧ n ≤ high then .ok n else .error (.outOfRange n name)
  | value => .error (.wrongType value name)

/-- Reads a whole number of 32 bits without a sign. -/
def asUInt32 (value : Json) : Decoded UInt32 :=
  (value.asWhole "u32" 0 4294967295).map fun n => UInt32.ofNat n.toNat

/-- Reads a whole number of 32 bits. -/
def asInt32 (value : Json) : Decoded Int :=
  value.asWhole "i32" (-2147483648) 2147483647

/-- A number of single precision. A double is rounded once more, a whole number only once. -/
def asSingle : Json → Decoded Single
  | .number (.whole n) => .ok (Binary.ofInt n)
  | .number (.float x) => .ok x.convert
  | value => .error (.wrongType value "f32")

/-- Reads a list, item by item. -/
def asList {α : Type} (item : Json → Decoded α) : Json → Decoded (List α)
  | .list items => items.mapM item
  | value => .error (.wrongType value "a sequence")

/-- Reads a value that may be null. -/
def asOption {α : Type} (item : Json → Decoded α) : Json → Decoded (Option α)
  | .null => .ok none
  | value => (item value).map some

/-- One of a few names, as a text or as an object with the name as its only key and null below it.
`lenient` also takes an empty object there. -/
def asVariant {α : Type} (variants : List (String × α)) (lenient : Bool) : Json → Decoded α
  | .text name => choose name
  | .object [(name, value)] => do
    let chosen ← choose name
    match value with
    | .null => .ok chosen
    | .object [] => if lenient then .ok chosen else .error (.wrongType value "unit")
    | _ => .error (.wrongType value "unit")
  | .object fields => .error (.notOneKey fields)
  | value => .error (.noVariant value)
where
  choose (name : String) : Decoded α :=
    match variants.lookup name with
    | some chosen => .ok chosen
    | none => .error (.unknownVariant name (variants.map (·.1)))

/-- A number with its noun, in the singular or plural. -/
def countOf (n : Nat) (noun : String) : String :=
  if n = 1 then s!"1 {noun}" else s!"{n} {noun}s"

/-! ## Records -/

/-- A record about to be read: its fields in reading order, whether they come from a list, what is
wrong with a list that is too long, and whether fields that are not declared are refused. -/
structure Record where
  name : String
  declared : List String
  fields : Fields
  asList : Bool
  excess : Option Mismatch
  strict : Bool

/-- Takes an object, or a list of fields in declaration order, as a record. -/
def asRecord (name : String) (declared : List String) (strict : Bool) : Json → Decoded Record
  | .object fields => .ok ⟨name, declared, fields, false, none, strict⟩
  | .list items =>
    let excess :=
      if declared.length < items.length then
        some (.surplus items.length)
      else none
    .ok ⟨name, declared, declared.zip items, true, excess, strict⟩
  | value => .error (.wrongType value name)

/-- Reads the fields one after another; `step` is given those that are declared. -/
def Record.fold {σ : Type} (record : Record) (start : σ)
    (step : σ → String → Json → Decoded σ) : Decoded σ :=
  go [] start record.fields
where
  go (seen : List String) (state : σ) : Fields → Decoded σ
    | [] => .ok state
    | (key, value) :: rest =>
      if !record.declared.contains key then
        if record.strict then .error (.unknownField key record.declared) else go seen state rest
      else if seen.contains key then .error (.duplicateField key)
      else do go (key :: seen) (← step state key value) rest

/-- A field that was not read although the record needs it. -/
def Record.missing (record : Record) (field : String) : Mismatch :=
  if record.asList then
    .wrongLength (record.declared.idxOf field)
      (record.name ++ " with " ++ countOf record.declared.length "element")
  else .missingField field

/-- The value of a field that must be there. -/
def Record.need {α : Type} (record : Record) (field : String) : Option α → Decoded α
  | some value => .ok value
  | none => .error (record.missing field)

/-- Reports a list of fields that was too long, once everything else has been read. -/
def Record.finish {α : Type} (record : Record) (value : α) : Decoded α :=
  match record.excess with
  | some mismatch => .error mismatch
  | none => .ok value

end Json

end QueryRewriting
