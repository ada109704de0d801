import QueryRewriting.Json.Decode

/-! # Tagged forms

A value with several forms names its form under a key of the object, or in front of the list of its
fields.
-/

namespace QueryRewriting.Json

/-- Reads the tag of a value that has several forms. -/
def asTag {α : Type} (variants : List (String × α)) : Json → Decoded α
  | .text name =>
    match variants.lookup name with
    | some form => .ok form
    | none => .error (.unknownVariant name (variants.map (·.1)))
  | value => .error (.wrongType value "variant identifier")

/-- The tag among the fields of an object, wherever it stands. -/
def findTag {α : Type} (key : String) (variants : List (String × α)) (found : Option α) :
    Fields → Decoded α
  | [] =>
    match found with
    | some form => .ok form
    | none => .error (.missingField key)
  | (k, value) :: rest =>
    if k = key then
      match found with
      | some _ => .error (.duplicateField key)
      | none => do findTag key variants (some (← asTag variants value)) rest
    else findTag key variants found rest

/-- A list that holds more than the fields of a form. `buffered` says that the form was found by its
tag, so that its fields are read out of a copy. -/
def excess (buffered : Bool) (length declared : Nat) : Mismatch :=
  if buffered then .wrongLength length (countOf declared "element" ++ " in sequence")
  else .surplus length

/-- What a form is called when its list is too short. -/
def tooShort (name : String) (length declared : Nat) : Mismatch :=
  .wrongLength length (name ++ " with " ++ countOf declared "element")

/-- Refuses a field that was read before. -/
def once {α : Type} (name : String) : Option α → Decoded Unit
  | none => .ok ()
  | some _ => .error (.duplicateField name)

/-- The value of a field of an object, which has to be there. -/
def need {α : Type} (name : String) : Option α → Decoded α
  | some value => .ok value
  | none => .error (.missingField name)

end QueryRewriting.Json
