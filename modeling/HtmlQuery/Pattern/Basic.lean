import HtmlQuery.Pattern.CharSet

/-!
Patterns: what a piece of a text has to look like. Letter case, the meaning of line ends and the
alphabet are settled in every part, so no options are needed for matching.
-/

namespace HtmlQuery

namespace Pattern

/-- The conditions on a place in a text that take up no characters. -/
inductive Anchor where
  | textStart
  | lineStart
  | textEnd
  /-- The end, or the line end at the very end. -/
  | lastLineEnd
  | lineEnd
  | wordEdge (isNegated asciiOnly : Bool)
  deriving DecidableEq, Repr

/-- How often a repeated part is tried first. -/
inductive Greed where
  /-- As often as possible, then less often. -/
  | greedy
  /-- As seldom as possible, then more often. -/
  | lazy
  /-- As often as possible and no other way. -/
  | possessive
  deriving DecidableEq, Repr

/-- The least and the greatest number of characters of a match; the latter may be unbounded. -/
structure Width where
  least : Nat
  greatest : Option Nat
  deriving DecidableEq, Repr

namespace Width

/-- The width of two parts, one behind the other. -/
def add (first second : Width) : Width where
  least := first.least + second.least
  greatest := first.greatest.bind fun a => second.greatest.map fun b => a + b

/-- The width of one of two parts. -/
def either (first second : Width) : Width where
  least := min first.least second.least
  greatest := first.greatest.bind fun a => second.greatest.map fun b => max a b

/-- The width of a part that is repeated. -/
def times (width : Width) (least : Nat) (most : Option Nat) : Width where
  least := width.least * least
  greatest :=
    match width.greatest, most with
    | some 0, _ => some 0
    | some greatest, some most => some (greatest * most)
    | _, _ => none

end Width

end Pattern

/-- A pattern; groups are numbered from one. -/
inductive Pattern where
  | empty
  | never
  | any (acrossLines : Bool)
  | single (set : Pattern.CharSet)
  | anchor (condition : Pattern.Anchor)
  | group (index : Nat) (body : Pattern)
  /-- The text that a group matched, whose width is known. -/
  | again (index : Nat) (folding : Pattern.Folding) (width : Pattern.Width)
  | sequence (first second : Pattern)
  | choice (first second : Pattern)
  | times (greed : Pattern.Greed) (least : Nat) (most : Option Nat) (body : Pattern)
  | look (isBehind isNegated : Bool) (body : Pattern)
  /-- Only the first way in which the body matches. -/
  | atomic (body : Pattern)
  /-- One of two patterns, depending on whether a group has matched. -/
  | conditional (index : Nat) (yes no : Pattern)
  deriving Repr

namespace Pattern

/-- The width of a pattern's matches. -/
def width : Pattern → Width
  | empty => ⟨0, some 0⟩
  | never => ⟨0, some 0⟩
  | any _ => ⟨1, some 1⟩
  | single _ => ⟨1, some 1⟩
  | anchor _ => ⟨0, some 0⟩
  | group _ body => body.width
  | again _ _ width => width
  | sequence first second => first.width.add second.width
  | choice first second => first.width.either second.width
  | times _ least most body => body.width.times least most
  | look _ _ _ => ⟨0, some 0⟩
  | atomic body => body.width
  | conditional _ yes no => yes.width.either no.width

end Pattern

end HtmlQuery
