import QueryRewriting.Json.Value

/-! # Compact JSON text

No blank stands between tokens. Within a text only the quote, the backslash and the controls are
escaped.
-/

namespace QueryRewriting.Json

open Decimal

/-- Four hexadecimal digits. -/
def hexFour (n : Nat) : List Char :=
  let digits := Nat.toDigits 16 n
  List.replicate (4 - digits.length) '0' ++ digits

/-- A character between quotes: with a short escape, with its code, or as it is. -/
def escapeChar (c : Char) : List Char :=
  if c = '"' then ['\\', '"']
  else if c = '\\' then ['\\', '\\']
  else if c = '\x08' then ['\\', 'b']
  else if c = '\x0c' then ['\\', 'f']
  else if c = '\n' then ['\\', 'n']
  else if c = '\r' then ['\\', 'r']
  else if c = '\t' then ['\\', 't']
  else if c.toNat < 0x20 then ['\\', 'u'] ++ hexFour c.toNat
  else [c]

/-- A text between quotes. -/
def textChars (text : String) : List Char :=
  '"' :: text.toList.flatMap escapeChar ++ ['"']

/-- A number. What is not finite has no number to stand for it. -/
def numberChars : Number → List Char
  | .whole n => (toString n).toList
  | .float x => if x.isFinite then (Layout.double.text x).toList else "null".toList

mutual

/-- A value without blanks. -/
def chars : Json → List Char
  | .null => "null".toList
  | .bool true => "true".toList
  | .bool false => "false".toList
  | .number n => numberChars n
  | .text t => textChars t
  | .list items => '[' :: itemChars items
  | .object fields => '\x7b' :: fieldChars fields

/-- The items of a list that has been opened, and its end. -/
def itemChars : List Json → List Char
  | [] => [']']
  | [item] => chars item ++ [']']
  | item :: rest => chars item ++ ',' :: itemChars rest

/-- The fields of an object that has been opened, and its end. -/
def fieldChars : List (String × Json) → List Char
  | [] => ['\x7d']
  | [(key, value)] => textChars key ++ ':' :: chars value ++ ['\x7d']
  | (key, value) :: rest => textChars key ++ ':' :: chars value ++ ',' :: fieldChars rest

end

/-- The text of a value. -/
def print (value : Json) : String := String.ofList (chars value)

end QueryRewriting.Json
