import QueryRewriting.Decimal.Whole
import QueryRewriting.Text.Hex
import QueryRewriting.Toml.Value

/-! # Numbers, truth values and dates of TOML

Everything that is written without quotes. Digits may be grouped by single underscores. A whole
number beyond 128 bits and a number beyond the range of doubles are refused.
-/

namespace QueryRewriting.Toml

open Decimal

/-- Digits of which every underscore stands between two others, without the underscores. -/
def ungroup? (isDigit : Char → Bool) : List Char → Option (List Char)
  | [] => none
  | [c] => if isDigit c then some [c] else none
  | c :: '_' :: rest => if isDigit c then (ungroup? isDigit rest).map (c :: ·) else none
  | c :: rest => if isDigit c then (ungroup? isDigit rest).map (c :: ·) else none

/-- The value of a digit, in whatever base it is one. -/
def digitValue (c : Char) : Nat := (Text.hexDigit? c).getD 0

/-- The number that digits stand for in a base. -/
def valueOf (base : Nat) (digits : List Char) : Nat :=
  digits.foldl (fun n c => n * base + digitValue c) 0

/-- A whole number that fits 128 bits. -/
def integer? (n : Int) : Option Value :=
  if -170141183460469231731687303715884105728 ≤ n
      ∧ n ≤ 340282366920938463463374607431768211455 then
    some (.integer n)
  else none

/-- A hexadecimal digit. -/
def isHex (c : Char) : Bool := (Text.hexDigit? c).isSome

/-- A whole number in a base, behind its prefix. -/
def based? (base : Nat) (isDigit : Char → Bool) (cs : List Char) : Option Value := do
  integer? (valueOf base (← ungroup? isDigit cs))

/-- Decimal digits without a leading zero. -/
def decimalPart? (cs : List Char) : Option (List Char) :=
  match ungroup? Char.isDigit cs with
  | some ('0' :: _ :: _) => none
  | digits => digits

/-- A double, unless it overflows. -/
def float? (negative : Bool) (digits : List Char) (exponent : Int) : Option Value :=
  let significand := valueOf 10 digits
  if significand = 0 ∨ exponent + digits.length < -400 then some (.float (Binary.zero negative))
  else if 400 < exponent + digits.length - 1 - (digits.takeWhile (· == '0')).length then none
  else
    let x : Double :=
      if exponent < 0 then Binary.ofFraction negative significand (Nat.pow 10 exponent.natAbs)
      else Binary.ofFraction negative (significand * Nat.pow 10 exponent.toNat) 1
    if x.isFinite then some (.float x) else none

/-- A signed exponent. -/
def exponent? (cs : List Char) : Option Int :=
  match cs with
  | '-' :: rest => (ungroup? Char.isDigit rest).map fun digits => -(valueOf 10 digits : Int)
  | '+' :: rest => (ungroup? Char.isDigit rest).map fun digits => (valueOf 10 digits : Int)
  | _ => (ungroup? Char.isDigit cs).map fun digits => (valueOf 10 digits : Int)

/-- The letter in front of an exponent. -/
def isExponentMark (c : Char) : Bool := c == 'e' || c == 'E'

/-- A decimal number: a whole one, unless there is a point or an exponent. -/
def decimal? (negative : Bool) (cs : List Char) : Option Value := do
  let mantissa := cs.takeWhile fun c => !isExponentMark c
  let exponent ← match cs.dropWhile fun c => !isExponentMark c with
    | [] => some none
    | _ :: rest => (exponent? rest).map some
  let whole := mantissa.takeWhile (· != '.')
  match mantissa.dropWhile (· != '.'), exponent with
  | [], none =>
    let n := valueOf 10 (← decimalPart? whole)
    integer? (if negative then -n else n)
  | [], some exponent => float? negative (← decimalPart? whole) exponent
  | _ :: fraction, exponent =>
    let digits ← decimalPart? whole
    let fraction ← ungroup? Char.isDigit fraction
    float? negative (digits ++ fraction) (exponent.getD 0 - fraction.length)

/-- The word for infinity or for no number, or a decimal number, behind a sign. -/
def signed? (negative : Bool) (cs : List Char) : Option Value :=
  if cs = ['i', 'n', 'f'] then some (.float (.infinite negative))
  else if cs = ['n', 'a', 'n'] then some (.float .nan)
  else decimal? negative cs

/-! ## Dates and times -/

/-- Two digits in front that stand for a number up to `high`. -/
def twoDigits? (high : Nat) : List Char → Option (Nat × List Char)
  | a :: b :: rest =>
    if a.isDigit && b.isDigit then
      let n := digitValue a * 10 + digitValue b
      if n ≤ high then some (n, rest) else none
    else none
  | _ => none

/-- How many days a month has. -/
def daysInMonth (year month : Nat) : Nat :=
  if month = 2 then
    if year % 4 = 0 ∧ (year % 100 ≠ 0 ∨ year % 400 = 0) then 29 else 28
  else if month = 4 ∨ month = 6 ∨ month = 9 ∨ month = 11 then 30
  else 31

/-- What follows a date. -/
def dropDate? (cs : List Char) : Option (List Char) :=
  match cs with
  | a :: b :: c :: d :: '-' :: rest => do
    let year ← readDigits? [a, b, c, d]
    let (month, rest) ← twoDigits? 12 rest
    match rest with
    | '-' :: rest =>
      let (day, rest) ← twoDigits? 31 rest
      if month = 0 ∨ day = 0 ∨ daysInMonth year month < day then none else some rest
    | _ => none
  | _ => none

/-- Drops the time in front; the seconds may be left out, and only seconds have a fraction. -/
def dropTime? (cs : List Char) : Option (List Char) := do
  let (_, rest) ← twoDigits? 23 cs
  match rest with
  | ':' :: rest =>
    let (_, rest) ← twoDigits? 59 rest
    match rest with
    | ':' :: rest =>
      let (_, rest) ← twoDigits? 60 rest
      match rest with
      | '.' :: rest =>
        if (rest.takeWhile Char.isDigit).isEmpty then none
        else some (rest.dropWhile Char.isDigit)
      | _ => some rest
    | _ => some rest
  | _ => none

/-- Whether a text is an offset from universal time, or empty. -/
def isOffset (cs : List Char) : Bool :=
  match cs with
  | [] => true
  | ['Z'] => true
  | ['z'] => true
  | sign :: rest =>
    (sign == '+' || sign == '-') &&
      match twoDigits? 23 rest with
      | some (_, ':' :: rest) =>
        match twoDigits? 59 rest with
        | some (_, []) => true
        | _ => false
      | _ => false

/-- Whether a text is a date, a time, or both with an optional offset. -/
def isDatetime (cs : List Char) : Bool :=
  match dropDate? cs with
  | some [] => true
  | some (mark :: rest) =>
    (mark == 'T' || mark == 't' || mark == ' ') &&
      match dropTime? rest with
      | some rest => isOffset rest
      | none => false
  | none => dropTime? cs == some []

/-! ## Scalars -/

/-- The value of a text without quotes. -/
def scalar? (cs : List Char) : Option Value :=
  match cs with
  | ['t', 'r', 'u', 'e'] => some (.boolean true)
  | ['f', 'a', 'l', 's', 'e'] => some (.boolean false)
  | '+' :: rest => signed? false rest
  | '-' :: rest => signed? true rest
  | '0' :: 'x' :: rest => based? 16 isHex rest
  | '0' :: 'o' :: rest => based? 8 (fun c => '0' ≤ c && c ≤ '7') rest
  | '0' :: 'b' :: rest => based? 2 (fun c => c == '0' || c == '1') rest
  | _ => if isDatetime cs then some (.datetime (String.ofList cs)) else signed? false cs

/-- What ends a text without quotes. -/
def endsScalar (c : Char) : Bool :=
  c == ' ' || c == '\t' || c == '\n' || c == '\r' || c == ',' || c == ']' || c == '\x7d' || c == '#'

/-- The text without quotes in front. A date may be joined to its time by one blank. -/
def scalarText (cs : List Char) : List Char × List Char :=
  let first := cs.takeWhile (!endsScalar ·)
  match dropDate? first, cs.dropWhile (!endsScalar ·) with
  | some [], ' ' :: digit :: rest =>
    if digit.isDigit then
      (first ++ ' ' :: digit :: rest.takeWhile (!endsScalar ·), rest.dropWhile (!endsScalar ·))
    else (first, ' ' :: digit :: rest)
  | _, rest => (first, rest)

end QueryRewriting.Toml
