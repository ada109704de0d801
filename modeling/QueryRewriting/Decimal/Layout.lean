import QueryRewriting.Decimal.Shortest

/-! # Layout of decimals

How the digits of a decimal are laid out is the writer's decision, held in one record: between which
exponents the notation is positional, whether a whole number keeps its point, and whether a positive
exponent has a sign.
-/

namespace QueryRewriting.Decimal

/-- The decisions of one written form. `positional` bounds the exponents of the leading digit that
are written without an exponent; without bounds no exponent is ever written. -/
structure Layout where
  positional : Option (Int × Int)
  keepPoint : Bool
  plusSign : Bool

/-- Messages: never an exponent, no point in a whole number. -/
def Layout.plain : Layout := ⟨none, false, false⟩

/-- Data of double precision: positional from `1e-5` up to `1e16`. -/
def Layout.double : Layout := ⟨some (-5, 16), true, true⟩

/-- Notes for a reader of logs: positional from `1e-4` up to `1e16`. -/
def Layout.note : Layout := ⟨some (-4, 16), true, false⟩

/-- Digits with the decimal point after the first `position` of them, padded with zeros. -/
def Layout.positionalText (layout : Layout) (digits : List Char) (position : Int) : List Char :=
  if position ≤ 0 then
    '0' :: '.' :: List.replicate (-position).toNat '0' ++ digits
  else
    let whole := digits.take position.toNat
    let fraction := digits.drop position.toNat
    let padded := whole ++ List.replicate (position.toNat - whole.length) '0'
    if fraction.isEmpty then
      if layout.keepPoint then padded ++ ['.', '0'] else padded
    else padded ++ '.' :: fraction

/-- Digits with the point after the first one and an exponent. -/
def Layout.exponentText (layout : Layout) (digits : List Char) (leading : Int) : List Char :=
  let sign := if leading < 0 then ['-'] else if layout.plusSign then ['+'] else []
  let mantissa := match digits with
    | first :: rest@(_ :: _) => first :: '.' :: rest
    | _ => digits
  mantissa ++ 'e' :: sign ++ Nat.toDigits 10 leading.natAbs

/-- A decimal with a point, or with an exponent if its point is too far off. -/
def Layout.decimalText (layout : Layout) (d : ScaledDigits) : List Char :=
  let digits := Nat.toDigits 10 d.digits
  let position : Int := digits.length + d.exponent
  match layout.positional with
  | none => layout.positionalText digits position
  | some (low, high) =>
    if low < position && position ≤ high then layout.positionalText digits position
    else layout.exponentText digits (position - 1)

/-- The text of a datum, by the digits of its shortest decimal. -/
def Layout.text (layout : Layout) {f : Format} : Binary f → String
  | .nan => "NaN"
  | .infinite negative => if negative then "-inf" else "inf"
  | .finite negative significand exponent =>
    let magnitude :=
      if significand = 0 then if layout.keepPoint then ['0', '.', '0'] else ['0']
      else layout.decimalText (shortest f significand exponent)
    String.ofList (if negative then '-' :: magnitude else magnitude)

end QueryRewriting.Decimal
