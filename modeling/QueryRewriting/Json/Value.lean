import QueryRewriting.Decimal.Layout

/-! # JSON values

Whole numbers of 64 bits, signed or not, stay whole; every other number is a double. The fields of
an object are listed in increasing order of their keys, each key once (`Json.canonical`); a text
that was just read lists them as they were written. -/

namespace QueryRewriting

open Decimal

/-- A JSON number. -/
inductive Number where
  | whole (value : Int)
  | float (value : Double)
  deriving DecidableEq, Repr

/-- The nearest double. -/
def Number.toDouble : Number → Double
  | .whole n => Binary.ofInt n
  | .float x => x

/-- A JSON value. -/
inductive Json where
  | null
  | bool (value : Bool)
  | number (value : Number)
  | text (value : String)
  | list (items : List Json)
  | object (fields : List (String × Json))
  deriving Repr, Inhabited

namespace Json

/-- The fields of an object. -/
abbrev Fields := List (String × Json)

/-- A whole number. -/
def whole (n : Int) : Json := .number (.whole n)

/-- A list of texts. -/
def texts (items : List String) : Json := .list (items.map .text)

/-- The datum of double precision nearest to a decimal. -/
def doubleOfDecimal (negative : Bool) (d : ScaledDigits) : Double :=
  let (num, den) := scaleDecimal d.digits 1 d.exponent
  Binary.ofFraction negative num den

/-- A datum of single precision is written with the digits of its own shortest decimal. One that is
not finite has no number to stand for it. -/
def single : Single → Json
  | .finite negative 0 _ => .number (.float (Binary.zero negative))
  | .finite negative significand exponent =>
    .number (.float (doubleOfDecimal negative (shortest .single significand exponent)))
  | _ => .null

/-- A datum of double precision. One that is not finite has no number to stand for it. -/
def double (x : Double) : Json :=
  if x.isFinite then .number (.float x) else .null

/-- The value of a field. -/
def Fields.get? (fields : Fields) (key : String) : Option Json :=
  fields.lookup key

/-- Puts a value under a key, replacing the one there; increasing keys stay increasing. -/
def Fields.set (fields : Fields) (key : String) (value : Json) : Fields :=
  match fields with
  | [] => [(key, value)]
  | (k, v) :: rest =>
    if key < k then (key, value) :: (k, v) :: rest
    else if key = k then (key, value) :: rest
    else (k, v) :: Fields.set rest key value

/-- Drops a field. -/
def Fields.erase (fields : Fields) (key : String) : Fields :=
  fields.filter (·.1 ≠ key)

/-- Sets every field of another object. -/
def Fields.extend (fields added : Fields) : Fields :=
  added.foldl (fun acc (key, value) => acc.set key value) fields

mutual

/-- The value with the fields of every object in increasing order of their keys; of several under
one key the last stays. -/
def canonical : Json → Json
  | .list items => .list (canonicalItems items)
  | .object fields => .object (canonicalFields [] fields)
  | value => value

/-- The canonical forms of some items. -/
def canonicalItems : List Json → List Json
  | [] => []
  | item :: rest => canonical item :: canonicalItems rest

/-- Sets the canonical forms of some fields, one after the other. -/
def canonicalFields (acc : Fields) : List (String × Json) → Fields
  | [] => acc
  | (key, value) :: rest => canonicalFields (acc.set key (canonical value)) rest

end

mutual

/-- Whether two values are the same; floats are compared as numbers. -/
def same : Json → Json → Bool
  | .null, .null => true
  | .bool a, .bool b => a == b
  | .number (.whole a), .number (.whole b) => a == b
  | .number (.float a), .number (.float b) => a == b || (a.isZero && b.isZero)
  | .text a, .text b => a == b
  | .list a, .list b => sameItems a b
  | .object a, .object b => sameFields a b
  | _, _ => false

/-- Whether two lists of items say the same. -/
def sameItems : List Json → List Json → Bool
  | [], [] => true
  | a :: as, b :: bs => same a b && sameItems as bs
  | _, _ => false

/-- Whether two lists of fields say the same. -/
def sameFields : List (String × Json) → List (String × Json) → Bool
  | [], [] => true
  | (k, a) :: as, (l, b) :: bs => k == l && same a b && sameFields as bs
  | _, _ => false

end

end Json

end QueryRewriting
