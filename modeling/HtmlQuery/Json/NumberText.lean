import HtmlQuery.Json.Basic
import HtmlQuery.Json.Number
import HtmlQuery.Text.Case
import HtmlQuery.Text.Integer

/-!
Numbers in free text. An integer may have a sign and digits of any script, other numbers may have a
point and an exponent or be one of the words for infinity and for what is no number. White space
around a number doesn't matter, single underscores may separate digits.
-/

namespace HtmlQuery.Json

open HtmlQuery.Text

/-- The digits at the front of a text with the underscores between them, and what is behind. -/
def digitsFront (text : List Char) : List Char × List Char :=
  let front := text.takeWhile fun c => isDigit c || c == '_'
  (front, text.drop front.length)

/-- The digits of a part of a number that may be missing. -/
def optionalDigits? (part : List Char) : Option (List Char) :=
  if part = [] then some [] else groupedDigits? part

/-- The exponent that is all that is left of a number. -/
def exponent? (text : List Char) : Option Int :=
  match text with
  | [] => some 0
  | e :: rest =>
      if e = 'e' ∨ e = 'E' then
        match rest with
        | '-' :: digits => (natural? digits).map fun value => -(value : Int)
        | '+' :: digits => (natural? digits).map Int.ofNat
        | digits => (natural? digits).map Int.ofNat
      else none

/-- The floating point number that a text without sign denotes. -/
def unsignedFloat? (negative : Bool) (text : List Char) : Option Float :=
  let word := String.ofList (text.map Char.toLower)
  if word = "inf" ∨ word = "infinity" then some (if negative then -1.0 / 0.0 else 1.0 / 0.0)
  else if word = "nan" then some (0.0 / 0.0)
  else
    let (whole, behind) := digitsFront text
    let (fraction, rest) := match behind with
      | '.' :: more => digitsFront more
      | _ => ([], behind)
    if whole = [] ∧ fraction = [] then none
    else do
      let whole ← optionalDigits? whole
      let fraction ← optionalDigits? fraction
      let exponent ← exponent? rest
      some (ofDecimal negative (digitsValue (whole ++ fraction)) (exponent - fraction.length))

/-- The floating point number that a text denotes. -/
def floatOfText? (text : List Char) : Option Float :=
  match trim text with
  | '-' :: rest => unsignedFloat? true rest
  | '+' :: rest => unsignedFloat? false rest
  | rest => unsignedFloat? false rest

/-- The number that a text denotes: an integer if possible. -/
def numberOfText? (text : String) : Option Json :=
  match integer? text.toList with
  | some value => some (.integer value)
  | none => (floatOfText? text.toList).map .float

end HtmlQuery.Json
