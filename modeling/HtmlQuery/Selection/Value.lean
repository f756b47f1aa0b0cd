import HtmlQuery.Selection.Basic

/-!
The values of selections: the markup of elements and documents, the trimmed content of text nodes,
and texts as they are.
-/

namespace HtmlQuery.Selection

/-- The value of an item, which nodes lack that have no markup or content. -/
def valueOf? (document : Document) : Item → Option String
  | .text value => some value
  | .node ref =>
      let value := markupOf document ref
      if value = "" then none else some value

/-- The values of all selected items. -/
def values (document : Document) (selection : Selection) : List String :=
  selection.items.filterMap (valueOf? document)

/-- The first value. -/
def value? (document : Document) (selection : Selection) : Option String :=
  (selection.values document).head?

/-- The value of an attribute of the first item, if that is an element. -/
def attributeValue (document : Document) (selection : Selection) (name : String)
    : Except Attribute.Refusal (Option String) :=
  match selection.items with
  | .node (.element id) :: _ => Attribute.lookup (document.attributes (.element id)) name
  | _ => .ok none

/-- The first item, if that is an element or the document. -/
def container? (selection : Selection) : Option NodeRef :=
  match selection.items with
  | .node (.text _) :: _ => none
  | .node ref :: _ => some ref
  | _ => none

/-- The markup inside of the first item. -/
def innerMarkup? (document : Document) (selection : Selection) : Option String :=
  selection.container?.map document.innerMarkup

/-- The markup of the first item. -/
def outerMarkup? (document : Document) (selection : Selection) : Option String :=
  selection.container?.map document.outerMarkup

/-- The text of an item. -/
def textOf (document : Document) : Item → String
  | .text value => value
  | .node ref => document.fullText ref

/-- The texts of all items that have any, joined by blanks; each may be trimmed before. -/
def text (document : Document) (selection : Selection) (trim : Bool) : String :=
  let texts := selection.items.map fun item =>
    if trim then (textOf document item).trimmed else textOf document item
  " ".intercalate (texts.filter (· ≠ ""))

/-- What a selection comes down to. -/
inductive Summary where
  /-- The first value, empty if there is none, and the number of selected items. -/
  | found (value : String) (count : Nat)
  /-- Nothing was selected. -/
  | missing (query : String)
  deriving DecidableEq, Repr

/-- The summary of a selection. -/
def summary (document : Document) (selection : Selection) : Summary :=
  if selection.isOk then .found ((selection.value? document).getD "") selection.count
  else .missing selection.query

end HtmlQuery.Selection
