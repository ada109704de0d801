import QueryRewriting.Json.Value
import QueryRewriting.Text.Hex

/-! # Reading JSON text

The reader accepts the JSON grammar with three limits of its own: the number of lists and objects
open at once, numbers that overflow a double, and escapes that leave half a surrogate pair.
-/

namespace QueryRewriting.Json.Reader

open Decimal Text

/-- A character that may stand between values. -/
def isBlank (c : Char) : Bool := c == ' ' || c == '\n' || c == '\t' || c == '\r'

/-- What follows the blanks in front. -/
def skipBlank (cs : List Char) : List Char := cs.dropWhile isBlank

/-! ## Numbers -/

/-- The largest whole number of 64 bits. -/
def maxWord : Nat := 18446744073709551615

/-- Appends decimal digits to a significand while it stays within 64 bits; the digits left over. -/
def accumulate (significand : Nat) : List Nat → Nat × List Nat
  | [] => (significand, [])
  | d :: rest =>
    if significand * 10 + d ≤ maxWord then accumulate (significand * 10 + d) rest
    else (significand, d :: rest)

/-- A power of ten in double precision. -/
def powerOfTen (n : Nat) : Double := Binary.ofNat (Nat.pow 10 n)

/-- Divides by a power of ten beyond the range of doubles, in steps of `10 ^ 308`. -/
def divideDown (x : Double) (power : Nat) : Nat → Double
  | 0 => Binary.zero false
  | fuel + 1 =>
    if power ≤ 308 then x.div (powerOfTen power)
    else if x.isZero then x
    else divideDown (x.div (powerOfTen 308)) (power - 308) fuel

/-- The double for `significand * 10 ^ exponent`: the significand is rounded first and the scaling
once more. `none` when it overflows. -/
def scaled? (significand : Nat) (exponent : Int) : Option Double :=
  let x : Double := Binary.ofNat significand
  if exponent < 0 then some (divideDown x exponent.natAbs 4)
  else if x.isZero then some x
  else if 308 < exponent then none
  else
    let product := x.mul (powerOfTen exponent.toNat)
    if product.isFinite then some product else none

/-- The pieces of a written number. -/
structure NumberText where
  negative : Bool
  whole : List Nat
  fraction : Option (List Nat)
  exponent : Option (Bool × List Nat)

/-- The number that decimal digits stand for. -/
def digitsValue (digits : List Nat) : Nat := digits.foldl (fun n d => n * 10 + d) 0

/-- A whole number that fits 64 bits stays whole, and `-0` does not. Anything else is a double made
of the leading digits that fit 64 bits. -/
def NumberText.value? (t : NumberText) : Option Number :=
  let (significand, dropped) := accumulate 0 t.whole
  let float? (significand : Nat) (exponent : Int) : Option Number :=
    (scaled? significand exponent).map fun x => .float (if t.negative then x.neg else x)
  match t.fraction, t.exponent with
  | none, none =>
    if !dropped.isEmpty then float? significand dropped.length
    else if !t.negative then some (.whole significand)
    else if significand = 0 ∨ 9223372036854775808 < significand then float? significand 0
    else some (.whole (-significand))
  | fraction, exponent =>
    let digits := fraction.getD []
    let (significand, ignored) := accumulate significand digits
    let shift : Int := dropped.length - (digits.length - ignored.length)
    match exponent with
    | none => float? significand shift
    | some (up, digits) =>
      let power := digitsValue digits
      if power ≤ 2147483647 then
        float? significand (if up then shift + power else shift - power)
      else if significand ≠ 0 ∧ up then none
      else some (.float (Binary.zero t.negative))

/-- The digits in front, and what follows them. -/
def digits (cs : List Char) : List Nat × List Char :=
  ((cs.takeWhile Char.isDigit).map (fun c => c.toNat - '0'.toNat), cs.dropWhile Char.isDigit)

/-- An exponent, if one starts here. -/
def exponent? : List Char → Option (Option (Bool × List Nat) × List Char)
  | c :: rest =>
    if c = 'e' ∨ c = 'E' then
      let (up, rest) := match rest with
        | '+' :: rest => (true, rest)
        | '-' :: rest => (false, rest)
        | _ => (true, rest)
      match digits rest with
      | ([], _) => none
      | (ds, rest) => some (some (up, ds), rest)
    else some (none, c :: rest)
  | [] => some (none, [])

/-- A fraction, if one starts here. -/
def fraction? : List Char → Option (Option (List Nat) × List Char)
  | '.' :: rest =>
    match digits rest with
    | ([], _) => none
    | (ds, rest) => some (some ds, rest)
  | cs => some (none, cs)

/-- The number in front; a leading zero stands alone. -/
def number? (negative : Bool) (cs : List Char) : Option (Number × List Char) := do
  let (whole, rest) := digits cs
  match whole with
  | [] => none
  | 0 :: _ :: _ => none
  | _ =>
    let (fraction, rest) ← fraction? rest
    let (exponent, rest) ← exponent? rest
    let value ← NumberText.value? { negative, whole, fraction, exponent }
    return (value, rest)

/-! ## Texts -/

/-- The code unit of an escape, in its four digits. -/
def unit? (a b c d : Char) : Option Nat := do
  return hexNumber (← [a, b, c, d].mapM hexDigit?)

/-- The code unit that begins a pair. -/
def isHighSurrogate (n : Nat) : Bool := 0xD800 ≤ n && n ≤ 0xDBFF

/-- The code unit that ends a pair. -/
def isLowSurrogate (n : Nat) : Bool := 0xDC00 ≤ n && n ≤ 0xDFFF

/-- The character of a pair. -/
def pairChar (high low : Nat) : Char :=
  Char.ofNat (0x10000 + (high - 0xD800) * 0x400 + (low - 0xDC00))

/-- The character of a short escape. -/
def escaped? (c : Char) : Option Char :=
  match c with
  | '"' => some '"'
  | '\\' => some '\\'
  | '/' => some '/'
  | 'b' => some '\x08'
  | 'f' => some '\x0c'
  | 'n' => some '\n'
  | 'r' => some '\r'
  | 't' => some '\t'
  | _ => none

/-- The rest of a text behind its opening quote: its characters, and what follows the closing
quote. -/
def textBody? : List Char → Option (List Char × List Char)
  | [] => none
  | '"' :: rest => some ([], rest)
  | '\\' :: 'u' :: a :: b :: c :: d :: '\\' :: 'u' :: e :: f :: g :: h :: rest =>
    match unit? a b c d, unit? e f g h with
    | some high, some low =>
      if isHighSurrogate high then
        if isLowSurrogate low then
          (textBody? rest).map fun (cs, rest) => (pairChar high low :: cs, rest)
        else none
      else if isLowSurrogate high then none
      else
        -- The second escape is no half of a pair, and is read again on its own.
        (textBody? ('\\' :: 'u' :: e :: f :: g :: h :: rest)).map fun (cs, rest) =>
          (Char.ofNat high :: cs, rest)
    | _, _ => none
  | '\\' :: 'u' :: a :: b :: c :: d :: rest =>
    match unit? a b c d with
    | some n =>
      if isHighSurrogate n || isLowSurrogate n then none
      else (textBody? rest).map fun (cs, rest) => (Char.ofNat n :: cs, rest)
    | none => none
  | '\\' :: c :: rest =>
    match escaped? c with
    | some x => (textBody? rest).map fun (cs, rest) => (x :: cs, rest)
    | none => none
  | c :: rest =>
    if c.toNat < 0x20 || c == '\\' then none
    else (textBody? rest).map fun (cs, rest) => (c :: cs, rest)

/-! ## Values -/

/-- What follows a word that must stand in front. -/
def word? (word : String) (cs : List Char) : Option (List Char) :=
  if word.toList.isPrefixOf cs then some (cs.drop word.length) else none

mutual

/-- The value in front, with at most `depth` lists and objects open at once. -/
def value? (fuel depth : Nat) (cs : List Char) : Option (Json × List Char) :=
  match fuel with
  | 0 => none
  | fuel + 1 =>
    match skipBlank cs with
    | 'n' :: rest => (word? "ull" rest).map (.null, ·)
    | 't' :: rest => (word? "rue" rest).map (.bool true, ·)
    | 'f' :: rest => (word? "alse" rest).map (.bool false, ·)
    | '"' :: rest => (textBody? rest).map fun (t, rest) => (.text (String.ofList t), rest)
    | '-' :: rest => (number? true rest).map fun (n, rest) => (.number n, rest)
    | '[' :: rest =>
      match depth with
      | 0 => none
      | depth + 1 =>
        match skipBlank rest with
        | ']' :: rest => some (.list [], rest)
        | rest => (items? fuel depth rest).map fun (items, rest) => (.list items, rest)
    | '\x7b' :: rest =>
      match depth with
      | 0 => none
      | depth + 1 =>
        match skipBlank rest with
        | '\x7d' :: rest => some (.object [], rest)
        | rest => (fields? fuel depth rest).map fun (fields, rest) => (.object fields, rest)
    | c :: rest =>
      if c.isDigit then (number? false (c :: rest)).map fun (n, rest) => (.number n, rest) else none
    | [] => none

/-- The items of a list that has been opened, and what follows its end. -/
def items? (fuel depth : Nat) (cs : List Char) : Option (List Json × List Char) :=
  match fuel with
  | 0 => none
  | fuel + 1 => do
    let (item, rest) ← value? fuel depth cs
    match skipBlank rest with
    | ']' :: rest => return ([item], rest)
    | ',' :: rest =>
      let (items, rest) ← items? fuel depth rest
      return (item :: items, rest)
    | _ => none

/-- The fields of an object that has been opened, and what follows its end. -/
def fields? (fuel depth : Nat) (cs : List Char) : Option (List (String × Json) × List Char) :=
  match fuel with
  | 0 => none
  | fuel + 1 =>
    match skipBlank cs with
    | '"' :: rest => do
      let (key, rest) ← textBody? rest
      match skipBlank rest with
      | ':' :: rest =>
        let (value, rest) ← value? fuel depth rest
        match skipBlank rest with
        | '\x7d' :: rest => return ([(String.ofList key, value)], rest)
        | ',' :: rest =>
          let (fields, rest) ← fields? fuel depth rest
          return ((String.ofList key, value) :: fields, rest)
        | _ => none
      | _ => none
    | _ => none

end

end QueryRewriting.Json.Reader

namespace QueryRewriting.Json

/-- The number of lists and objects that a stored text may have open at once. -/
def nestingLimit : Nat := 127

/-- The value in front of a text, its fields in the order of the text, and what follows it. -/
def front? (depth : Nat) (text : String) : Option (Json × List Char) :=
  let cs := text.toList
  Reader.value? (2 * cs.length + 2) depth cs

/-- Whether nothing but blanks is left. -/
def isSpent (rest : List Char) : Bool := (Reader.skipBlank rest).isEmpty

/-- The value of a text, its fields in the order of the text; nothing but blanks may follow it. -/
def read? (depth : Nat) (text : String) : Option Json :=
  match front? depth text with
  | some (value, rest) => if isSpent rest then some value else none
  | none => none

/-- The value of a text, with the fields of every object in order. -/
def parse? (text : String) : Option Json :=
  (read? nestingLimit text).map canonical

end QueryRewriting.Json
