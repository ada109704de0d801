import QueryRewriting.Http.MediaType
import QueryRewriting.Json.Decode
import QueryRewriting.Json.Reader

/-! # Requests and responses

A request may carry a JSON body, which is read in the order of its text: a value that does not have
the wanted shape is reported even if something else than blanks follows it.
-/

namespace QueryRewriting.Http

/-- A request. -/
structure Request where
  method : String
  target : String
  contentType? : Option String
  body : String
  deriving Repr

/-- A response; refusals that the service itself does not word have no body. -/
structure Response where
  status : Nat
  body? : Option Json

/-- A response without a body. -/
def Response.bare (status : Nat) : Response := { status, body? := none }

/-- A response that everything went well. -/
def Response.ok (body : Json) : Response := { status := 200, body? := some body }

/-- Why a request does not get as far as the service. -/
inductive Rejection where
  | noRoute
  | wrongMethod
  | badSegment
  | noJson
  | malformed
  | unreadable
  deriving DecidableEq, Repr

/-- The status with which a request is rejected. -/
def Rejection.status : Rejection → Nat
  | .noRoute => 404
  | .wrongMethod => 405
  | .badSegment => 400
  | .noJson => 415
  | .malformed => 400
  | .unreadable => 422

/-- A list with too many items is noticed where its bracket should close. -/
def breaksText : Mismatch → Bool
  | .surplus _ => true
  | _ => false

/-- Reads a JSON text. What is noticed by a missing sign, as `isBreak` tells, counts as malformed.
-/
def decodeText {α : Type} (isBreak : Mismatch → Bool) (decode : Json → Decoded α)
    (text : String) : Except Rejection α :=
  match Json.front? Json.nestingLimit text with
  | none => .error .malformed
  | some (json, rest) =>
    match decode json with
    | .error mismatch => .error (if isBreak mismatch then .malformed else .unreadable)
    | .ok value => if Json.isSpent rest then .ok value else .error .malformed

/-- Reads the body of a request, which has to be JSON. -/
def Request.decode {α : Type} (decode : Json → Decoded α) (request : Request)
    (isBreak : Mismatch → Bool := breaksText) : Except Rejection α :=
  match request.contentType? with
  | none => .error .noJson
  | some type =>
    if MediaType.isJson type then decodeText isBreak decode request.body else .error .noJson

/-- Reads the body of a request, if it says that it has one. -/
def Request.decodeIfAny {α : Type} (decode : Json → Decoded α) (request : Request) :
    Except Rejection (Option α) :=
  match request.contentType? with
  | none => .ok none
  | some _ => (request.decode decode).map some

end QueryRewriting.Http
