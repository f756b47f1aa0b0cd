import HtmlQuery.Json.Basic
import HtmlQuery.Json.Number

/-!
Comparing JSON values. Numbers are compared by their exact values, whatever form they have; a value
that is no number compares with nothing. Equality of values looks into arrays and objects, where
`true` and `false` equal the numbers one and zero.
-/

namespace HtmlQuery.Json

open HtmlQuery.Decimal

/-- How an integer compares with a floating point number that is a number. -/
def compareIntegerWithFloat (n : Int) (value : Float) : Ordering :=
  match magnitudeOf value with
  | .infinite => if isNegative value then .gt else .lt
  | .finite numerator halvings =>
      let signed : Int := if isNegative value then -numerator else numerator
      compare (n * twoToThe halvings) signed

/-- How two floating point numbers compare, if both are numbers. -/
def compareFloats? (a b : Float) : Option Ordering :=
  if a < b then some .lt
  else if b < a then some .gt
  else if a == b then some .eq
  else none

/-- How two numbers compare. -/
def compareNumbers? : Json → Json → Option Ordering
  | integer a, integer b => some (compare a b)
  | integer a, float b => if b.isNaN then none else some (compareIntegerWithFloat a b)
  | float a, integer b => if a.isNaN then none else some (compareIntegerWithFloat b a).swap
  | float a, float b => compareFloats? a b
  | _, _ => none

/-- The number that a truth value equals; other values stay as they are. -/
def counted : Json → Json
  | bool value => integer (if value then 1 else 0)
  | value => value

mutual

/-- Whether two values are equal. -/
def equal : Json → Json → Bool
  | null, null => true
  | string a, string b => a == b
  | array a, array b => equalItems a b
  | object a, object b => a.length == b.length && equalMembers a b
  | a, b => compareNumbers? (counted a) (counted b) == some .eq

/-- Whether two rows of values are equal. -/
def equalItems : List Json → List Json → Bool
  | [], [] => true
  | a :: restA, b :: restB => equal a b && equalItems restA restB
  | _, _ => false

/-- Whether all members are equal to those with the same names in another object. -/
def equalMembers : List (String × Json) → List (String × Json) → Bool
  | [], _ => true
  | (name, value) :: rest, others =>
      (match member? others name with
        | some other => equal value other
        | none => false)
        && equalMembers rest others

end

end HtmlQuery.Json
