import HtmlQuery.Text.DigitRanges
import HtmlQuery.Text.WordRanges

/-!
Word characters and decimal digits of all scripts. A word character is a letter, a character with a
numeric value or the underscore; a name starts with one that isn't a decimal digit.
-/

namespace HtmlQuery.Text

/-- Whether a character is a letter, a numeral of any kind or an underscore. -/
def isWord (c : Char) : Bool :=
  if c.toNat < 128 then c.isAlphanum || c == '_' else wordRanges.contains c

/-- The value of a decimal digit of any script. -/
def digitValue? (c : Char) : Option Nat :=
  if c.toNat < 128 then
    if c.isDigit then some (c.toNat - 48) else none
  else
    (digitRanges.rangeOf? c).map fun range => (c.toNat - range.fst) % 10

/-- Whether a character is a decimal digit of any script. -/
def isDigit (c : Char) : Bool :=
  (digitValue? c).isSome

/-- Whether a character may start a name: a word character that isn't a decimal digit. -/
def isNameStart (c : Char) : Bool :=
  isWord c && !isDigit c

/-- The number that a row of decimal digits denotes; other characters count as zero. -/
def digitsValue (digits : List Char) : Nat :=
  digits.foldl (fun value c => value * 10 + (digitValue? c).getD 0) 0

end HtmlQuery.Text
