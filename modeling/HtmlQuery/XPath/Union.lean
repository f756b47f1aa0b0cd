import HtmlQuery.Text.Blank
import HtmlQuery.XPath.PathReader

/-! Unions: the branches of an expression between the bars outside of all groups. -/

namespace HtmlQuery.XPath

/-- The positions of the bars outside of all groups, given how many groups are open. -/
def barPositions (depth : Int) : List Token → List Nat
  | [] => []
  | token :: rest =>
      if token.kind.isOpener then barPositions (depth + 1) rest
      else if token.kind.isCloser then barPositions (depth - 1) rest
      else if token.kind = .bar ∧ depth = 0 then token.position :: barPositions depth rest
      else barPositions depth rest

/-- The pieces of a text between some positions, whose characters are left out. -/
def piecesFrom (start : Nat) (expression : List Char) : List Nat → List (List Char)
  | [] => [expression.drop start]
  | position :: rest =>
      (expression.take position).drop start :: piecesFrom (position + 1) expression rest

/-- The branches of a union, trimmed; empty ones are left out. -/
def branches (expression : String) : List String :=
  let bars := barPositions 0 (Token.scan expression)
  ((piecesFrom 0 expression.toList bars).map fun piece => String.ofList (Text.trim piece)).filter
    (· != "")

end HtmlQuery.XPath
