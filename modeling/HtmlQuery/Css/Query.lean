import HtmlQuery.Css.Match
import HtmlQuery.Css.Reader
import HtmlQuery.XPath.Evaluate

/-!
Queries with selectors. The selector is read only if there is an element or a document to start
from; every match is listed once, where it is found first.
-/

namespace HtmlQuery.Css

/-- Why a query with a selector fails. -/
inductive Failure where
  /-- The text is no selector. -/
  | invalid
  /-- A name or value holds a control character, which no document can hold. -/
  | forbiddenCharacter
  deriving DecidableEq, Repr

/-- How a failure is reported that isn't the selector's form. -/
def Failure.message : Failure → String
  | invalid => "Invalid selector."
  | forbiddenCharacter => Attribute.Refusal.forbiddenCharacter.message

/-- Whether a name or value among some tokens holds a character that can occur in no document. -/
def holdsForbidden (tokens : List Token) : Bool :=
  tokens.any fun token =>
    match token with
    | .ident text | .hash text | .string text => text.toList.any Document.isForbidden
    | _ => false

/-- Whether a query can start from an item. -/
def isContext : Item → Bool
  | .node .document => true
  | .node (.element _) => true
  | _ => false

/-- The elements below one item that a group of selectors matches. -/
def Group.startingAt (group : Group) (document : Document) : Item → List NodeRef
  | .node ref => group.below document ref
  | .text _ => []

/-- The elements below some items that the selector matches. -/
def select (document : Document) (selector : String) (items : List Item)
    : Except Failure (List NodeRef) :=
  if !items.any isContext then .ok []
  else
    match Group.read? selector with
    | none => .error .invalid
    | some group =>
        if holdsForbidden (Token.scan selector) then .error .forbiddenCharacter
        else .ok (items.flatMap (group.startingAt document)).eraseDups

end HtmlQuery.Css
