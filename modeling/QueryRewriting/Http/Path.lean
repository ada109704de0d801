import QueryRewriting.Text.Hex

/-! # Paths of requests

The path of a request ends where its query begins. It is cut at its slashes before the escapes in
its segments are resolved, so an escaped slash does not cut it. -/

namespace QueryRewriting.Http

/-- The path of a target, without query and fragment. -/
def pathOf (target : String) : List Char :=
  target.toList.takeWhile fun c => c != '?' && c != '#'

/-- The segments of a path; `segment` holds the characters of the current one, backwards. -/
def cutPath (segment : List Char) : List Char → List String
  | [] => [String.ofList segment.reverse]
  | c :: rest =>
    if c = '/' then String.ofList segment.reverse :: cutPath [] rest
    else cutPath (c :: segment) rest

/-- The segments of a target; of one that begins with a slash the first is empty. -/
def segments (target : String) : List String := cutPath [] (pathOf target)

/-- The value of a byte that is a hexadecimal digit. -/
def hexByte? (b : UInt8) : Option UInt8 := (Text.hexDigit? (.ofUInt8 b)).map .ofNat

/-- Resolves escapes: a percent sign and two digits stand for a byte. A percent sign without two
digits stands for itself. -/
def unescapeBytes : List UInt8 → List UInt8
  | 0x25 :: high :: low :: rest =>
    match hexByte? high, hexByte? low with
    | some h, some l => (16 * h + l) :: unescapeBytes rest
    | _, _ => 0x25 :: unescapeBytes (high :: low :: rest)
  | b :: rest => b :: unescapeBytes rest
  | [] => []

/-- A segment without its escapes, if what they stand for is a text. -/
def unescape? (segment : String) : Option String :=
  String.fromUTF8? ⟨(unescapeBytes segment.toUTF8.data.toList).toArray⟩

end QueryRewriting.Http
