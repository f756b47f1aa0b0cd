/-!
Numbers of 53 significant binary digits: what a decimal is rounded to when it is read. Signs are left
to those who use them. Every number is an exact fraction whose denominator is a power of two, so
comparing one with a natural number needs no rounding.
-/

namespace HtmlQuery.Decimal

/-- A power of two. -/
def twoToThe (exponent : Nat) : Nat :=
  Nat.pow 2 exponent

/-- A power of ten. -/
def tenToThe (exponent : Nat) : Nat :=
  Nat.pow 10 exponent

/-- A fraction `numerator / 2 ^ halvings` in lowest terms, or more than can be held. -/
inductive Magnitude where
  | finite (numerator halvings : Nat)
  | infinite
  deriving DecidableEq, Repr

/-- The greatest integer `e` with `2 ^ e ≤ numerator / denominator`, both being positive. -/
def floorLog (numerator denominator : Nat) : Int :=
  let guess : Int := (numerator.log2 : Int) - denominator.log2
  let reached : Bool :=
    if 0 ≤ guess then decide (denominator * twoToThe guess.toNat ≤ numerator)
    else decide (denominator ≤ numerator * twoToThe (-guess).toNat)
  if reached then guess else guess - 1

/-- The integer nearest to a quotient; of two equally near ones the even one. -/
def roundHalfEven (numerator denominator : Nat) : Nat :=
  let quotient := numerator / denominator
  let double := 2 * (numerator % denominator)
  if double < denominator then quotient
  else if denominator < double then quotient + 1
  else if quotient % 2 = 0 then quotient
  else quotient + 1

/-- The exponent of the last binary digit that a quotient's nearest number keeps. -/
def lastPlace (numerator denominator : Nat) : Int :=
  max (-1074) (floorLog numerator denominator - 52)

namespace Magnitude

/-- A fraction in lowest terms: both sides are halved as long as that is possible. -/
def reduced (numerator : Nat) : Nat → Magnitude
  | 0 => finite numerator 0
  | halvings + 1 =>
      if numerator % 2 = 0 then reduced (numerator / 2) halvings
      else finite numerator (halvings + 1)

/-- The number `significand · 2 ^ exponent`, infinite from `2 ^ 1024` on. -/
def scaled (significand : Nat) (exponent : Int) : Magnitude :=
  if 0 ≤ exponent then
    let value := significand * twoToThe exponent.toNat
    if twoToThe 1024 ≤ value then infinite else finite value 0
  else
    reduced significand (-exponent).toNat

/-- The number nearest to a quotient with a positive denominator, ties going to even. -/
def nearest (numerator denominator : Nat) : Magnitude :=
  if numerator = 0 then finite 0 0
  else
    let place := lastPlace numerator denominator
    let significand :=
      if 0 ≤ place then roundHalfEven numerator (denominator * twoToThe place.toNat)
      else roundHalfEven (numerator * twoToThe (-place).toNat) denominator
    scaled significand place

/-- The integer part of a number, which the infinite one lacks. -/
def floor? : Magnitude → Option Nat
  | finite numerator halvings => some (numerator / twoToThe halvings)
  | infinite => none

/-- How a natural number compares to a number. -/
def compareNat (n : Nat) : Magnitude → Ordering
  | finite numerator halvings => compare (n * twoToThe halvings) numerator
  | infinite => .lt

end Magnitude

end HtmlQuery.Decimal
