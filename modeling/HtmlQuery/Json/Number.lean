import HtmlQuery.Decimal.Layout

/-!
Floating point numbers as decimals: reading rounds once, writing takes the shortest decimal that
reads back.
-/

namespace HtmlQuery.Json

open HtmlQuery.Decimal

/-- The bits of a magnitude as a binary floating point number with a positive sign. -/
def bitsOf : Magnitude → Nat
  | .infinite => 0x7FF * twoToThe 52
  | .finite numerator halvings =>
      if numerator = 0 then 0
      else
        let exponent := floorLog numerator (twoToThe halvings)
        if exponent < -1022 then numerator * twoToThe 1074 / twoToThe halvings
        else
          let significand :=
            if exponent ≤ 52 then numerator * twoToThe (52 - exponent).toNat / twoToThe halvings
            else numerator / twoToThe (halvings + (exponent - 52).toNat)
          (exponent + 1022).toNat * twoToThe 52 + significand

/-- The magnitude of a finite or infinite floating point number. -/
def magnitudeOf (value : Float) : Magnitude :=
  let bits := value.toBits.toNat
  let exponent : Nat := bits / twoToThe 52 % 2048
  let fraction : Nat := bits % twoToThe 52
  if exponent = 2047 then .infinite
  else if exponent = 0 then .scaled fraction (-1074)
  else .scaled (twoToThe 52 + fraction) ((exponent : Int) - 1075)

/-- Whether the sign bit of a floating point number is set. -/
def isNegative (value : Float) : Bool :=
  value.toBits.toNat / twoToThe 63 == 1

/-- The floating point number nearest to the decimal `digits · 10 ^ exponent`. -/
def ofDecimal (negative : Bool) (digits : Nat) (exponent : Int) : Float :=
  let size := ((Nat.toDigits 10 digits).length : Int) + exponent
  let magnitude : Magnitude :=
    if digits = 0 ∨ size < -400 then .finite 0 0
    else if 400 < size then .infinite
    else if 0 ≤ exponent then .nearest (digits * tenToThe exponent.toNat) 1
    else .nearest digits (tenToThe (-exponent).toNat)
  Float.ofBits (UInt64.ofNat ((if negative then twoToThe 63 else 0) + bitsOf magnitude))

/-- The floating point number nearest to an integer. -/
def ofInteger (value : Int) : Float :=
  ofDecimal (value < 0) value.natAbs 0

/-- The floating point number nearest to a quotient with a positive divisor. -/
def ofQuotient (numerator : Int) (denominator : Nat) : Float :=
  let sign := if numerator < 0 then twoToThe 63 else 0
  Float.ofBits (UInt64.ofNat (sign + bitsOf (.nearest numerator.natAbs denominator)))

/-- The greatest integer that isn't greater than a finite floating point number. -/
def floor? (value : Float) : Option Int :=
  match magnitudeOf value with
  | .infinite => none
  | .finite numerator halvings =>
      let signed : Int := if isNegative value then -numerator else numerator
      some (signed / twoToThe halvings)

/-- A floating point number as text, given the names of those that have no digits. -/
def floatText (infinity notANumber : String) (value : Float) : String :=
  if value.isNaN then notANumber
  else
    (if isNegative value then "-" else "") ++
      match magnitudeOf value with
      | .infinite => infinity
      | .finite numerator halvings => plainLayout.write (shortest numerator halvings)

end HtmlQuery.Json
