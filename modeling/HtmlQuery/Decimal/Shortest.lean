import HtmlQuery.Decimal.Magnitude

/-!
The shortest decimal that reads back as a number. On the grids of decimals with one, two, up to
seventeen significant digits the two neighbours of the number are tried; the first grid on which one
of them reads back wins, and of two that do the nearer one.
-/

namespace HtmlQuery

/-- The decimal `digits · 10 ^ exponent`. -/
structure Decimal where
  digits : Nat
  exponent : Int
  deriving DecidableEq, Repr

namespace Decimal

/-- A decimal as a quotient of natural numbers. -/
def quotient (decimal : Decimal) : Nat × Nat :=
  if 0 ≤ decimal.exponent then (decimal.digits * tenToThe decimal.exponent.toNat, 1)
  else (decimal.digits, tenToThe (-decimal.exponent).toNat)

/-- The same decimal without zeros at the end of its digits, as far as the bound allows. -/
def trimmed (decimal : Decimal) : Nat → Decimal
  | 0 => decimal
  | bound + 1 =>
      if decimal.digits ≠ 0 ∧ decimal.digits % 10 = 0 then
        trimmed ⟨decimal.digits / 10, decimal.exponent + 1⟩ bound
      else decimal

/-- How many digits stand before the point of a positive quotient, negative if zeros follow it. -/
def pointPosition (numerator denominator : Nat) : Int :=
  ((Nat.toDigits 10 (numerator * tenToThe 330 / denominator)).length : Int) - 330

/-- The decimal with a number of significant digits that reads back as a fraction, if there is one.
-/
def onGrid? (numerator halvings : Nat) (point : Int) (length : Nat) : Option Decimal :=
  let unit := point - length
  let denominator := twoToThe halvings
  let (scaledNumerator, scaledDenominator) :=
    if 0 ≤ unit then (numerator, denominator * tenToThe unit.toNat)
    else (numerator * tenToThe (-unit).toNat, denominator)
  let below : Decimal := ⟨scaledNumerator / scaledDenominator, unit⟩
  let above : Decimal := ⟨below.digits + 1, unit⟩
  let readsBack (decimal : Decimal) : Bool :=
    Magnitude.nearest decimal.quotient.fst decimal.quotient.snd == .finite numerator halvings
  let nearer : Decimal :=
    if roundHalfEven scaledNumerator scaledDenominator = below.digits then below else above
  match readsBack below, readsBack above with
  | true, true => some nearer
  | true, false => some below
  | false, true => some above
  | false, false => none

/-- The shortest decimal that reads back as a fraction of 53 significant binary digits. -/
def shortest (numerator halvings : Nat) : Decimal :=
  if numerator = 0 then ⟨0, 0⟩
  else
    let point := pointPosition numerator (twoToThe halvings)
    let lengths := (List.range 17).map (· + 1)
    ((lengths.findSome? (onGrid? numerator halvings point)).getD ⟨numerator, 0⟩).trimmed 20

end Decimal

end HtmlQuery
