import HtmlQuery.Text.Integer

/-!
Selectors. A compound demands a type and conditions of a single element, a complex selector leads
from compound to compound, and a group is a list of complex selectors. Names of types and attributes
are kept in lower case.
-/

namespace HtmlQuery.Css

/-- How two neighbouring compounds are related. -/
inductive Combinator where
  | descendant
  | child
  | next
  | later
  deriving DecidableEq, Repr

/-- What is demanded of an attribute. -/
inductive AttributeTest where
  | present
  | equal (value : String)
  /-- Another value, or none at all unless the given value is empty. -/
  | unequal (value : String)
  /-- The value is one of the words. -/
  | word (value : String)
  /-- The value itself, or the value with a hyphen and more behind it. -/
  | hyphened (value : String)
  | opening (value : String)
  | ending (value : String)
  | within (value : String)
  deriving DecidableEq, Repr

/-- The positions `step * n + offset` for natural numbers `n`. -/
structure Series where
  step : Int
  offset : Int
  deriving DecidableEq, Repr

/-- Whether a position belongs to a series. -/
def Series.contains (series : Series) (position : Nat) : Bool :=
  let distance := (position : Int) - series.offset
  if series.step = 0 then distance == 0
  else distance % series.step == 0 && 0 ≤ distance / series.step

/-- Reads a series: `odd`, `even`, an offset alone or a step before the letter `n`. -/
def Series.read? (text : String) : Option Series :=
  let body := Text.trim text.toList
  let before := body.takeWhile (· != 'n')
  let behind := (body.dropWhile (· != 'n')).drop 1
  if body = "odd".toList then some ⟨2, 1⟩
  else if body = "even".toList then some ⟨2, 0⟩
  else if before = body then (Text.integer? body).map fun offset => ⟨0, offset⟩
  else do
    let step ← match before with
      | [] => some 1
      | ['+'] => some 1
      | ['-'] => some (-1)
      | _ => Text.integer? before
    let offset ← if behind = [] then some 0 else Text.integer? behind
    some ⟨step, offset⟩

/-- The conditions that depend on an element and its surroundings alone. -/
inductive State where
  | root
  | empty
  | link
  | checked
  | enabled
  | disabled
  /-- A state that elements of a document never are in. -/
  | never
  deriving DecidableEq, Repr

mutual

/-- A condition on a single element. -/
inductive Simple where
  | id (value : String)
  | classed (name : String)
  | attribute (name : String) (test : AttributeTest)
  | state (state : State)
  /-- Nothing but the first candidate if it stands alone. -/
  | scope
  /-- The position among the siblings, perhaps only of the same type and counted from the end. -/
  | position (ofType fromEnd : Bool) (series : Series)
  /-- No siblings, perhaps only of the same type. -/
  | only (ofType : Bool)
  | contains (text : String)
  | language (range : String)
  | not (compound : Compound)
  | oneOf (compounds : List Compound)
  | has (start : Combinator) (target : Complex)

/-- The demanded type, if there is one, and further conditions. -/
inductive Compound where
  | mk (type : Option String) (conditions : List Simple)

/-- A compound at the end of a way that may lead over others. -/
inductive Complex where
  | compound (compound : Compound)
  | join (before : Complex) (combinator : Combinator) (compound : Compound)

end

namespace Compound

/-- The type that is demanded. -/
def type : Compound → Option String
  | mk type _ => type

/-- The conditions apart from the type. -/
def conditions : Compound → List Simple
  | mk _ conditions => conditions

end Compound

/-- The alternatives of a selector. -/
abbrev Group := List Complex

end HtmlQuery.Css
