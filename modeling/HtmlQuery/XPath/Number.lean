import HtmlQuery.Decimal.Layout
import HtmlQuery.Text.Word

/-!
Numbers in predicates and how they are compared. A number is read from decimal digits of any script
and rounded once; it is compared exactly with positions, counts and lengths.
-/

namespace HtmlQuery.XPath

/-- The number that a literal stands for. -/
abbrev Number := Decimal.Magnitude

namespace Number

/-- Reads digits that may have a point and more digits behind them. -/
def read (literal : String) : Number :=
  let whole := literal.toList.takeWhile (· != '.')
  let fraction := (literal.toList.dropWhile (· != '.')).drop 1
  Decimal.Magnitude.nearest (Text.digitsValue (whole ++ fraction)) (Decimal.tenToThe fraction.length)

/-- A number as text: all digits of an integer, else the shortest decimal that reads back. -/
def text : Number → String
  | .finite value 0 => toString value
  | .finite numerator halvings => Decimal.plainLayout.write (Decimal.shortest numerator halvings)
  | .infinite => "inf"

end Number

/-- The comparisons of numbers. -/
inductive Relation where
  | less
  | lessOrEqual
  | greater
  | greaterOrEqual
  | equal
  | unequal
  deriving DecidableEq, Repr

namespace Relation

/-- The relation that a token stands for. -/
def ofText? (text : String) : Option Relation :=
  match text with
  | "<" => some less
  | "<=" => some lessOrEqual
  | ">" => some greater
  | ">=" => some greaterOrEqual
  | "=" => some equal
  | "!=" => some unequal
  | _ => none

/-- How a relation is written. -/
def text : Relation → String
  | less => "<"
  | lessOrEqual => "<="
  | greater => ">"
  | greaterOrEqual => ">="
  | equal => "="
  | unequal => "!="

/-- The relation that holds when both sides change places. -/
def swapped : Relation → Relation
  | less => greater
  | lessOrEqual => greaterOrEqual
  | greater => less
  | greaterOrEqual => lessOrEqual
  | equal => equal
  | unequal => unequal

/-- Whether the relation holds between two values that compare as stated. -/
def admits : Relation → Ordering → Bool
  | less, order => order == .lt
  | lessOrEqual, order => order != .gt
  | greater, order => order == .gt
  | greaterOrEqual, order => order != .lt
  | equal, order => order == .eq
  | unequal, order => order != .eq

/-- Whether the relation holds between a natural number and a number. -/
def holds (relation : Relation) (n : Nat) (value : Number) : Bool :=
  relation.admits (value.compareNat n)

end Relation

/-- The comparisons of texts. -/
inductive Equality where
  | equal
  | unequal
  deriving DecidableEq, Repr

namespace Equality

/-- The comparison of texts that a relation stands for. -/
def ofRelation? : Relation → Option Equality
  | .equal => some equal
  | .unequal => some unequal
  | _ => none

/-- How a comparison is written. -/
def text : Equality → String
  | equal => "="
  | unequal => "!="

/-- Whether the comparison holds between two texts. -/
def holds : Equality → String → String → Bool
  | equal, left, right => left == right
  | unequal, left, right => left != right

end Equality

end HtmlQuery.XPath
