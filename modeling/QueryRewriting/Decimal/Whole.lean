/-! # Whole numbers in text

Decimal digits of ASCII, with an optional sign in front. A number outside the range of its type is
refused like any other text.
-/

namespace QueryRewriting.Decimal

/-- The natural number written by a non-empty list of decimal digits. -/
def readDigits? (cs : List Char) : Option Nat :=
  if cs.isEmpty || !cs.all Char.isDigit then none
  else some (cs.foldl (fun n c => n * 10 + (c.toNat - '0'.toNat)) 0)

/-- A natural number below `2 ^ bits`; a plus sign may stand in front. -/
def readUnsigned? (bits : Nat) (cs : List Char) : Option Nat :=
  let digits := match cs with
    | '+' :: rest => rest
    | _ => cs
  match readDigits? digits with
  | some n => if n < Nat.pow 2 bits then some n else none
  | none => none

/-- An integer of 64 bits; a sign may stand in front. -/
def readInt64? (cs : List Char) : Option Int64 :=
  match cs with
  | '-' :: rest =>
    match readDigits? rest with
    | some n => if n ≤ 9223372036854775808 then some (Int64.ofInt (-n)) else none
    | none => none
  | _ =>
    match readUnsigned? 63 cs with
    | some n => some (Int64.ofInt n)
    | none => none

end QueryRewriting.Decimal
