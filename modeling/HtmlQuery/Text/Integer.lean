import HtmlQuery.Text.Blank
import HtmlQuery.Text.Word

/-!
Integers in text: an optional sign and decimal digits of any script, which single underscores may
separate. White space around an integer doesn't matter.
-/

namespace HtmlQuery.Text

/-- The digits of a text in which single underscores may stand between digits. -/
def groupedDigits? : List Char → Option (List Char)
  | [] => none
  | [c] => if isDigit c then some [c] else none
  | c :: d :: rest =>
      if !isDigit c then none
      else if d = '_' then (groupedDigits? rest).map (c :: ·)
      else (groupedDigits? (d :: rest)).map (c :: ·)

/-- The natural number that a text without sign denotes. -/
def natural? (text : List Char) : Option Nat :=
  (groupedDigits? text).map digitsValue

/-- The integer that a text denotes. -/
def integer? (text : List Char) : Option Int :=
  match trim text with
  | '-' :: digits => (natural? digits).map fun value => -(value : Int)
  | '+' :: digits => (natural? digits).map Int.ofNat
  | digits => (natural? digits).map Int.ofNat

end HtmlQuery.Text
