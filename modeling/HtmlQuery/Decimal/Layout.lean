import HtmlQuery.Decimal.Shortest

/-!
Writing a decimal with a point or with an exponent. The decision which of both is taken, and how the
exponent looks, is a value of its own.
-/

namespace HtmlQuery.Decimal

/-- How decimals are written. -/
structure Layout where
  /-- The least power of ten of a first digit that is written with a point alone. -/
  leastPositional : Int
  /-- The power of ten from which on an exponent is written. -/
  firstScientific : Int
  /-- The least number of digits of an exponent. -/
  exponentDigits : Nat

/-- A point alone serves from one tenth of a thousandth up to sixteen digits. -/
def plainLayout : Layout where
  leastPositional := -4
  firstScientific := 16
  exponentDigits := 2

namespace Layout

/-- A row of zeros. -/
def zeros (count : Nat) : String :=
  String.ofList (List.replicate count '0')

/-- An exponent with its sign and at least the demanded digits. -/
def exponent (layout : Layout) (power : Int) : String :=
  let digits := toString power.natAbs
  (if power < 0 then "e-" else "e+") ++ zeros (layout.exponentDigits - digits.length) ++ digits

/-- The text of a decimal; one without fraction gets a zero behind its point. -/
def write (layout : Layout) (decimal : Decimal) : String :=
  let digits := toString decimal.digits
  let count : Int := digits.length
  let point := count + decimal.exponent
  let power := point - 1
  if layout.leastPositional ≤ power ∧ power < layout.firstScientific ∨ decimal.digits = 0 then
    if decimal.digits = 0 then "0.0"
    else if point ≤ 0 then "0." ++ zeros (-point).toNat ++ digits
    else if count ≤ point then digits ++ zeros (point - count).toNat ++ ".0"
    else
      String.ofList (digits.toList.take point.toNat) ++ "."
        ++ String.ofList (digits.toList.drop point.toNat)
  else
    let first := String.ofList (digits.toList.take 1)
    let others := String.ofList (digits.toList.drop 1)
    first ++ (if others = "" then "" else "." ++ others) ++ layout.exponent power

end Layout

end HtmlQuery.Decimal
