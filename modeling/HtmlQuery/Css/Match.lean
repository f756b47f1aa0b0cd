import HtmlQuery.Css.Selector
import HtmlQuery.Document.Attribute
import HtmlQuery.Document.Node
import HtmlQuery.Text.Case
import HtmlQuery.Text.Search

/-!
Which elements a selector matches. Starting from a node, every compound keeps some of the elements
that its combinator leads to; the elements that the last one keeps are listed in document order.
Tags and attribute names of the document are compared as they are written.
-/

namespace HtmlQuery.Css

open HtmlQuery.Text

/-- The tag of an element, empty for other nodes. -/
def tagOf : Node → String
  | .element _ tag _ => tag
  | _ => ""

/-- The attributes of an element. -/
def attributesOf : Node → List Attribute
  | .element _ _ attributes => attributes
  | _ => []

/-- The elements among some nodes. -/
def elementsOf (nodes : List Node) : List Node :=
  nodes.filter fun node =>
    match node with
    | .element _ _ _ => true
    | _ => false

/-- Whether an element has an attribute. -/
def hasAttribute (node : Node) (name : String) : Bool :=
  (Attribute.valueOf? (attributesOf node) name).isSome

/-- Whether a character separates the words of an attribute value. -/
def isSeparator (c : Char) : Bool :=
  c == ' ' || c == '\t' || c == '\n' || c == '\r'

/-- The words of an attribute value. -/
def wordsOf (value : List Char) : List (List Char) :=
  (value.splitBy fun c d => !isSeparator c && !isSeparator d).filter fun word =>
    !word.all isSeparator

/-- Whether an attribute satisfies a test; without the attribute only a different value is fine. -/
def AttributeTest.holds (test : AttributeTest) (found : Option String) : Bool :=
  match test, found with
  | unequal value, none => value != ""
  | _, none => false
  | present, some _ => true
  | equal value, some actual => actual == value
  | unequal value, some actual => actual != value
  | word value, some actual => (wordsOf actual.toList).contains value.toList
  | hyphened value, some actual =>
      actual == value || (value.toList ++ ['-']).isPrefixOf actual.toList
  | opening value, some actual => value != "" && value.toList.isPrefixOf actual.toList
  | ending value, some actual => value != "" && value.toList.isSuffixOf actual.toList
  | within value, some actual => value != "" && occursIn value.toList actual.toList

/-- The elements that a combinator leads to. -/
def Combinator.elements (combinator : Combinator) (document : Document) (ref : NodeRef)
    : List Node :=
  match combinator with
  | descendant => elementsOf (document.along Tree.Place.descendants ref)
  | child => elementsOf (document.along Tree.Place.children ref)
  | next => (elementsOf (document.along Tree.Place.followingSiblings ref)).take 1
  | later => elementsOf (document.along Tree.Place.followingSiblings ref)

/--
Whether an element has a parent as far as selectors are concerned: whatever holds the nodes of a
fragment is one, a complete document is none.
-/
def hasParent (document : Document) (node : Node) : Bool :=
  match document.parent? node.ref with
  | none => false
  | some .document => document.isFragment
  | some _ => true

/-- The siblings before or behind an element, perhaps only those with the same tag. -/
def siblings (document : Document) (node : Node) (ofType behind : Bool) : List Node :=
  let axis := if behind then Tree.Place.followingSiblings else Tree.Place.precedingSiblings
  (elementsOf (document.along axis node.ref)).filter fun other =>
    !ofType || tagOf other == tagOf node

/-- Whether an element is below one with a tag that has the attribute `disabled`. -/
def isWithinDisabled (document : Document) (node : Node) (tag : String) : Bool :=
  (document.along Tree.Place.ancestors node.ref).any fun above =>
    tagOf above == tag && hasAttribute above "disabled"

/-- Whether an element is a field that can be filled in: an input must tell its type. -/
def isField (node : Node) : Bool :=
  match tagOf node with
  | "input" =>
      match Attribute.valueOf? (attributesOf node) "type" with
      | some type => type != "hidden"
      | none => false
  | tag => ["button", "select", "textarea"].contains tag

/-- Whether an element is in a state. -/
def State.holds (state : State) (document : Document) (node : Node) : Bool :=
  let tag := tagOf node
  let isLink := hasAttribute node "href" && ["a", "link", "area"].contains tag
  match state with
  | root => !hasParent document node
  | empty =>
      (Combinator.child.elements document node.ref).isEmpty && document.fullText node.ref == ""
  | link => isLink
  | checked =>
      (hasAttribute node "selected" && tag == "option")
        || (hasAttribute node "checked" && ["input", "command"].contains tag
          && ["checkbox", "radio"].contains
            ((Attribute.valueOf? (attributesOf node) "type").getD ""))
  | enabled =>
      isLink
        || (["command", "fieldset", "optgroup"].contains tag && !hasAttribute node "disabled")
        || ((isField node || tag == "keygen")
          && !(hasAttribute node "disabled" || isWithinDisabled document node "fieldset"))
        || (tag == "option"
          && !(hasAttribute node "disabled" || isWithinDisabled document node "optgroup"))
  | disabled =>
      (hasAttribute node "disabled"
        && (isField node || ["command", "fieldset", "optgroup", "option"].contains tag))
        || (isField node && isWithinDisabled document node "fieldset")
  | never => false

/-- Whether the nearest attribute `lang` names a language or a variety of it. -/
def speaks (document : Document) (node : Node) (range : String) : Bool :=
  let line := attributesOf node :: (document.along Tree.Place.ancestors node.ref).map attributesOf
  match line.findSome? fun attributes => Attribute.valueOf? attributes "lang" with
  | none => false
  | some language => (range.toList ++ ['-']).isPrefixOf (language.toLower.toList ++ ['-'])

/-- Whether an element has a demanded type. -/
def hasType (type : Option String) (node : Node) : Bool :=
  match type with
  | none => true
  | some name => tagOf node == name

mutual

/-- Whether an element satisfies a condition. -/
def Simple.holds (document : Document) (node : Node) : Simple → Bool
  | .id value => Attribute.valueOf? (attributesOf node) "id" == some value
  | .classed name =>
      AttributeTest.holds (.word name) (Attribute.valueOf? (attributesOf node) "class")
  | .attribute name test => test.holds (Attribute.valueOf? (attributesOf node) name)
  | .state state => state.holds document node
  | .scope => true
  | .position ofType fromEnd series =>
      series.contains ((siblings document node ofType fromEnd).length + 1)
  | .only ofType =>
      hasParent document node && (siblings document node ofType false).isEmpty
        && (siblings document node ofType true).isEmpty
  | .contains text => occursIn text.toList (document.fullText node.ref).toList
  | .language range => speaks document node range
  | .not compound => !compound.holds document node
  | .oneOf compounds => oneHolds document node compounds
  | .has start target => !(target.reach document start node.ref).isEmpty

/-- Whether an element satisfies several conditions. -/
def allHold (document : Document) (node : Node) : List Simple → Bool
  | [] => true
  | condition :: rest => condition.holds document node && allHold document node rest

/-- Whether an element satisfies a compound. -/
def Compound.holds (document : Document) (node : Node) : Compound → Bool
  | .mk type conditions => hasType type node && allHold document node conditions

/-- Whether an element satisfies one of several compounds. -/
def oneHolds (document : Document) (node : Node) : List Compound → Bool
  | [] => false
  | compound :: rest => compound.holds document node || oneHolds document node rest

/-- The candidates that a compound keeps: a scope on its own keeps only the first one. -/
def Compound.among (document : Document) (candidates : List Node) : Compound → List Node
  | .mk type conditions =>
      let typed := candidates.filter (hasType type)
      match conditions with
      | [.scope] => typed.take 1
      | _ => typed.filter fun node => allHold document node conditions

/-- The elements that a complex selector leads to from a node, each once. -/
def Complex.reach (document : Document) (start : Combinator) (ref : NodeRef) : Complex → List Node
  | .compound compound => compound.among document (start.elements document ref)
  | .join before combinator compound =>
      ((before.reach document start ref).flatMap fun node =>
        compound.among document (combinator.elements document node.ref)).eraseDups

end

/-- The elements below a node that one of several selectors matches, in document order. -/
def Group.below (group : Group) (document : Document) (ref : NodeRef) : List NodeRef :=
  let reached := group.flatMap fun selector => selector.reach document .descendant ref
  ((Combinator.descendant.elements document ref).filter reached.contains).map Node.ref

end HtmlQuery.Css
