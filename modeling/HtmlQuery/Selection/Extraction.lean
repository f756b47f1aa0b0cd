import HtmlQuery.Document.Attribute
import HtmlQuery.Document.Markup
import HtmlQuery.Text.Blank
import HtmlQuery.XPath.Evaluate

/-!
The suffixes `::text` and `::attr(name)` of queries, which tell what is taken from each selected
node. What stands before the suffix must not be empty.
-/

namespace HtmlQuery.Selection

open HtmlQuery.Text

/-- What is taken from the nodes that a query selects. -/
inductive Extraction where
  | node
  | text
  | attr (name : String)
  deriving DecidableEq, Repr

/-- A query and what is taken from the nodes that it selects. -/
structure Extracting where
  query : String
  extraction : Extraction
  deriving DecidableEq, Repr

namespace Extracting

/-- What stands before the suffix `::text` at the end of an expression. -/
def beforeText? (expression : List Char) : Option (List Char) :=
  let suffix := "::text".toList
  if suffix.isSuffixOf expression then
    let query := expression.take (expression.length - suffix.length)
    if query = [] then none else some query
  else none

/-- The name in the suffix `::attr(name)`, if a text consists of such a suffix alone. -/
def attrName? (expression : List Char) : Option (List Char) :=
  let opening := "::attr(".toList
  if opening.isPrefixOf expression then
    let inner := (expression.drop opening.length).dropLast
    if expression.getLast? = some ')' ∧ inner ≠ [] ∧ ')' ∉ inner then some inner else none
  else none

/--
What stands before the first suffix `::attr(name)` that takes up the rest of an expression, and the
name. At least one character stands before it.
-/
def beforeAttr? : List Char → Option (List Char × List Char)
  | [] => none
  | c :: rest =>
      match attrName? rest with
      | some name => some ([c], name)
      | none => (beforeAttr? rest).map fun (query, name) => (c :: query, name)

/-- Cuts the suffix off an expression. -/
def split (expression : String) : Extracting :=
  let body := trim expression.toList
  match beforeText? body with
  | some query => ⟨String.ofList (trim query), .text⟩
  | none =>
      match beforeAttr? body with
      | some (query, name) =>
          ⟨String.ofList (trim query), .attr (String.ofList (trim name))⟩
      | none => ⟨String.ofList body, .node⟩

end Extracting

/-- The markup of an element or a document, or the trimmed content of a text node. -/
def markupOf (document : Document) : NodeRef → String
  | .text slot => (document.content slot).trimmed
  | ref => document.outerMarkup ref

/-- What is taken from a node, if there is anything to take; a text without characters is not. -/
def Extraction.ofNode (document : Document) (ref : NodeRef)
    : Extraction → Except Attribute.Refusal (Option String)
  | node => .ok (some (markupOf document ref))
  | text =>
      let value := (document.fullText ref).trimmed
      .ok (if value = "" then none else some value)
  | attr name =>
      match ref with
      | .element _ => Attribute.lookup (document.attributes ref) name
      | _ => .ok none

/-- What is taken from an item; a text is taken as it is. -/
def Extraction.ofItem (document : Document) (extraction : Extraction)
    : Item → Except Attribute.Refusal (Option String)
  | .text value => .ok (some value)
  | .node ref => extraction.ofNode document ref

/-- What is taken from several items: the items themselves or all texts that there are. -/
def Extraction.apply (document : Document) (extraction : Extraction) (items : List Item)
    : Except Attribute.Refusal (List Item) :=
  match extraction with
  | node => .ok items
  | _ =>
      (items.mapM (extraction.ofItem document)).map fun values => (values.filterMap id).map .text

end HtmlQuery.Selection
