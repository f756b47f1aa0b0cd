/-! Sets of characters, given as closed ranges of code points. -/

namespace HtmlQuery.Text

/-- A set of characters: the code points that lie in one of the closed ranges. -/
structure CodePoints where
  ranges : List (Nat × Nat)

namespace CodePoints

/-- The range that a character lies in, if there is one. -/
def rangeOf? (points : CodePoints) (c : Char) : Option (Nat × Nat) :=
  points.ranges.find? fun range => range.fst ≤ c.toNat && c.toNat ≤ range.snd

/-- Whether a character belongs to the set. -/
def contains (points : CodePoints) (c : Char) : Bool :=
  (points.rangeOf? c).isSome

end CodePoints

end HtmlQuery.Text
