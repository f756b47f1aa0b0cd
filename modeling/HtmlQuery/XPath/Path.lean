import HtmlQuery.XPath.Number
import HtmlQuery.XPath.CharacterMap
import HtmlQuery.XPath.Error

/-!
Location paths: steps that lead along an axis, keep the nodes that pass a test and filter them by
predicates. Only fixed forms of predicates are known.
-/

namespace HtmlQuery.XPath

/-- The directions in which a step can lead. -/
inductive Axis where
  | ancestor
  | attributes
  | child
  | descendant
  | following
  | followingSibling
  | parent
  | preceding
  | precedingSibling
  | self
  deriving DecidableEq, Repr

namespace Axis

/-- All axes. -/
def all : List Axis :=
  [ancestor, attributes, child, descendant, following, followingSibling, parent, preceding,
    precedingSibling, self]

/-- The name of an axis. -/
def name : Axis → String
  | ancestor => "ancestor"
  | attributes => "attribute"
  | child => "child"
  | descendant => "descendant"
  | following => "following"
  | followingSibling => "following-sibling"
  | parent => "parent"
  | preceding => "preceding"
  | precedingSibling => "preceding-sibling"
  | self => "self"

/-- The axis of a name. -/
def ofName? (name : String) : Option Axis :=
  all.find? fun axis => axis.name == name

/-- The axis of a name; what names none is rejected. -/
def ofName (name : String) : Except PathError Axis :=
  match ofName? name with
  | some axis => .ok axis
  | none => .error .unknownAxis

end Axis

/-- What a step demands of the nodes on its axis; names are kept in lower case. -/
inductive NodeTest where
  | anyName
  | name (localName : String)
  | anyNode
  | text
  deriving DecidableEq, Repr

/-- The tests of a part of a text. -/
inductive StringTest where
  | contains
  | startsWith
  | endsWith
  deriving DecidableEq, Repr

namespace StringTest

/-- The name of the function that stands for a test. -/
def name : StringTest → String
  | contains => "contains"
  | startsWith => "starts-with"
  | endsWith => "ends-with"

/-- The test that a function stands for. -/
def ofName? (name : String) : Option StringTest :=
  [contains, startsWith, endsWith].find? fun test => test.name == name

end StringTest

/-- The ways to join two predicates. -/
inductive Connective where
  | and
  | or
  deriving DecidableEq, Repr

namespace Connective

/-- The word between two predicates that are joined. -/
def word : Connective → String
  | and => "and"
  | or => "or"

/-- Whether the joined predicate holds. -/
def combine : Connective → Bool → Bool → Bool
  | and, left, right => left && right
  | or, left, right => left || right

end Connective

/-- The conditions that a step can put on its candidates. -/
inductive Predicate where
  | position (relation : Relation) (value : Number)
  | last
  | hasAttribute (name : String)
  | hasDescendant (name : String)
  | attributeIs (name : String) (equality : Equality) (value : String)
  | attributeTest (test : StringTest) (name value : String)
  | textIs (normalized : Bool) (equality : Equality) (value : String)
  | textTest (test : StringTest) (value : String)
  | substring (start : Nat) (length : Option Nat) (equality : Equality) (value : String)
  | substringAfter (delimiter : String) (equality : Equality) (value : String)
  | substringBefore (delimiter : String) (equality : Equality) (value : String)
  | translated (map : CharacterMap) (equality : Equality) (value : String)
  | count (name : String) (relation : Relation) (value : Number)
  | textLength (relation : Relation) (value : Number)
  | not (predicate : Predicate)
  | join (connective : Connective) (left right : Predicate)
  deriving DecidableEq, Repr

/-- One step of a path. -/
structure Step where
  axis : Axis
  test : NodeTest
  predicates : List Predicate
  deriving DecidableEq, Repr

/--
What could be read of an expression: its steps, the part of it that could not be read, and the
predicates that were skipped because they have no known form.
-/
structure Path where
  steps : List Step
  remainder : String
  ignored : List String
  deriving DecidableEq, Repr

/-- Whether the whole expression could be read. -/
def Path.isComplete (path : Path) : Bool :=
  !path.steps.isEmpty && path.remainder == ""

end HtmlQuery.XPath
