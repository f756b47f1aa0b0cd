import HtmlQuery.Document.Attribute
import HtmlQuery.Document.Node
import HtmlQuery.Log.Record
import HtmlQuery.Text.Search
import HtmlQuery.XPath.Error
import HtmlQuery.XPath.PathReader

/-!
Evaluating location paths. A step goes through its context nodes in order and keeps what each of
them leads to, so a node can occur several times in a result. Texts that an earlier step selected
lead nowhere.
-/

namespace HtmlQuery

/-- What a query can select: a node of the document or a text. -/
inductive Item where
  | node (ref : NodeRef)
  | text (value : String)
  deriving DecidableEq, Repr

namespace XPath

open HtmlQuery.Text

/-- The nodes on an axis from a node, in the axis' direction; attributes are none. -/
def Axis.nodes (axis : Axis) (document : Document) (ref : NodeRef) : List Node :=
  match axis with
  | .ancestor => document.along Tree.Place.ancestors ref
  | .attributes => []
  | .child => document.along Tree.Place.children ref
  | .descendant => document.along Tree.Place.descendants ref
  | .following => document.along Tree.Place.following ref
  | .followingSibling => document.along Tree.Place.followingSiblings ref
  | .parent => document.along (fun place => place.parent?.toList) ref
  | .preceding => document.along Tree.Place.preceding ref
  | .precedingSibling => document.along Tree.Place.precedingSiblings ref
  | .self => (document.node? ref).toList

namespace NodeTest

/-- Whether a node passes the test. -/
def accepts (test : NodeTest) (node : Node) : Bool :=
  match test, node with
  | anyName, .element _ _ _ => true
  | name localName, .element _ tag _ => tag.lowered == localName
  | anyNode, _ => true
  | text, .text _ _ => true
  | _, _ => false

/-- Whether an attribute passes the test. -/
def acceptsAttribute (test : NodeTest) (entry : Attribute) : Bool :=
  match test with
  | anyName => true
  | name localName => entry.name.lowered == localName
  | _ => false

end NodeTest

/-- Whether a value passes the test for a part of it. -/
def StringTest.holds (test : StringTest) (value part : String) : Bool :=
  match test with
  | contains => occursIn part.toList value.toList
  | startsWith => part.toList.isPrefixOf value.toList
  | endsWith => part.toList.isSuffixOf value.toList

/-- A node that a predicate is put to, its position among all candidates and their number. -/
structure Candidate where
  node : Node
  position : Nat
  size : Nat

/-- The text of a node without the white space at its ends. -/
def trimmedText (document : Document) (node : Node) : String :=
  (document.fullText node.ref).trimmed

/-- How many elements below a node have a tag that is written like the name in lower case. -/
def countBelow (document : Document) (node : Node) (name : String) : Nat :=
  (document.along Tree.Place.descendants node.ref).countP fun below =>
    match below with
    | .element _ tag _ => tag == name.lowered
    | _ => false

/-- Where a text is cut; an empty delimiter is a fault. -/
def cutText (text delimiter : String) : Except Fault (Option (String × String)) :=
  if delimiter = "" then .error .emptyDelimiter
  else
    .ok <| (cutAt? delimiter.toList text.toList).map fun (before, after) =>
      (String.ofList before, String.ofList after)

/-- The characters from a position on, which counts from one, as many as a length allows. -/
def substring (text : String) (start : Nat) (length : Option Nat) : String :=
  let rest := text.toList.drop (start - 1)
  String.ofList (match length with
    | none => rest
    | some length => rest.take length)

/-- Whether a candidate satisfies a predicate. -/
def Predicate.holds (document : Document) (candidate : Candidate) : Predicate → Except Fault Bool
  | position relation value => .ok (relation.holds candidate.position value)
  | last => .ok (candidate.position == candidate.size)
  | hasAttribute name =>
      .ok <| match candidate.node with
        | .element _ _ attributes => (Attribute.lookup? attributes name).isSome
        | _ => false
  | hasDescendant name =>
      .ok <| match candidate.node with
        | .text _ _ => false
        | node => countBelow document node name != 0
  | attributeIs name equality value =>
      .ok <| match candidate.node with
        | .element _ _ attributes =>
            match Attribute.lookup? attributes name with
            | some actual => equality.holds actual value
            | none => equality == .unequal
        | _ => false
  | attributeTest test name value =>
      .ok <| match candidate.node with
        | .element _ _ attributes => test.holds ((Attribute.lookup? attributes name).getD "") value
        | _ => false
  | textIs normalized equality value =>
      let text := trimmedText document candidate.node
      .ok <| equality.holds
        (if normalized then String.ofList (normalizeSpace text.toList) else text) value
  | textTest test value => .ok (test.holds (trimmedText document candidate.node) value)
  | substring start length equality value =>
      .ok (equality.holds (XPath.substring (trimmedText document candidate.node) start length) value)
  | substringAfter delimiter equality value => do
      let cut ← cutText (trimmedText document candidate.node) delimiter
      .ok (equality.holds ((cut.map Prod.snd).getD "") value)
  | substringBefore delimiter equality value => do
      let cut ← cutText (trimmedText document candidate.node) delimiter
      .ok (equality.holds ((cut.map Prod.fst).getD "") value)
  | translated map equality value =>
      .ok (equality.holds (map.apply (trimmedText document candidate.node)) value)
  | count name relation value =>
      .ok <| match candidate.node with
        | .text _ _ => false
        | node => relation.holds (countBelow document node name) value
  | textLength relation value =>
      .ok (relation.holds (trimmedText document candidate.node).length value)
  | not predicate => do
      .ok (!(← holds document candidate predicate))
  | join connective left right => do
      let first ← holds document candidate left
      let second ← holds document candidate right
      .ok (connective.combine first second)

/-- The nodes that satisfy a predicate, given the position of the first one and the number of all.
-/
def keepFrom (document : Document) (predicate : Predicate) (size position : Nat)
    : List Node → Except Fault (List Node)
  | [] => .ok []
  | node :: rest => do
      let kept ← predicate.holds document ⟨node, position, size⟩
      let others ← keepFrom document predicate size (position + 1) rest
      .ok (if kept then node :: others else others)

/-- The nodes that satisfy several predicates, each put to those that satisfied the ones before. -/
def keepAll (document : Document) : List Predicate → List Node → Except Fault (List Node)
  | [], nodes => .ok nodes
  | predicate :: others, nodes => do
      keepAll document others (← keepFrom document predicate nodes.length 1 nodes)

namespace Step

/-- What a step selects from one context node. -/
def selectFrom (document : Document) (step : Step) (ref : NodeRef) : Except Fault (List Item) :=
  if step.axis = .attributes then
    .ok <| ((document.attributes ref).filter step.test.acceptsAttribute).map fun entry =>
      .text entry.value
  else do
    let candidates := (step.axis.nodes document ref).filter step.test.accepts
    let kept ← keepAll document step.predicates candidates
    .ok (kept.map fun node => .node node.ref)

/-- What a step selects from several items; texts are left out. -/
def select (document : Document) (step : Step) : List Item → Except Fault (List Item)
  | [] => .ok []
  | .text _ :: rest => select document step rest
  | .node ref :: rest => do
      let first ← step.selectFrom document ref
      let others ← select document step rest
      .ok (first ++ others)

end Step

namespace Path

/-- What several steps select, one after the other. -/
def selectSteps (document : Document) : List Step → List Item → Except Fault (List Item)
  | [], items => .ok items
  | step :: others, items => do selectSteps document others (← step.select document items)

/-- What a path selects from some items. -/
def select (document : Document) (path : Path) (items : List Item) : Except Fault (List Item) :=
  selectSteps document path.steps items

end Path

/-- Why an expression could not be evaluated. -/
inductive Failure where
  | unreadable (error : PathError)
  | fault (fault : Fault)

/-- Where an expression can't be read any further. -/
def incomplete (expression : String) (path : Path) : PathError where
  expression := some expression
  position := some ((trimEnd expression.toList).length - path.remainder.length : Int)
  message := some (if path.steps.isEmpty then "No location step found."
    else "The expression can't be parsed completely.")

/-- Reads an expression without union and evaluates it; skipped predicates are reported. -/
def evaluate (document : Document) (expression : String) (items : List Item)
    : ExceptT Failure Log.Logged (List Item) := do
  match Path.read expression with
  | .error fault => throw (.fault fault)
  | .ok path =>
      for predicate in path.ignored do
        Log.Logged.debug "ignoring unsupported xpath predicate"
          [("expression", .string expression), ("predicate", .string predicate)]
      if path.isComplete then
        match path.select document items with
        | .ok selected => return selected
        | .error fault => throw (.fault fault)
      else throw (.unreadable (incomplete expression path))

end XPath

end HtmlQuery
