import HtmlQuery.Proofs.XPath.Literals
import HtmlQuery.Proofs.XPath.Positions
import HtmlQuery.Proofs.XPath.TokenRow

/-! How paths are written: which rows of tokens spell a step and its predicates, and which texts those
rows are laid out as. `and` binds stronger than `or`, both group to the left, and parentheses overrule
that.
-/

namespace HtmlQuery.XPath

-----------------------------------------------------------------------------------------
-- Words and marks
-----------------------------------------------------------------------------------------

/-- The text of the tokens of a kind, if there is only one. -/
def TokenKind.sign : TokenKind → String
  | doubleSlash => "//"
  | slash => "/"
  | asterisk => "*"
  | doubleColon => "::"
  | doubleDot => ".."
  | dot => "."
  | openBracket => "["
  | closeBracket => "]"
  | atSign => "@"
  | openParen => "("
  | closeParen => ")"
  | comma => ","
  | bar => "|"
  | string | number | name | relation | error => ""

/-- Whether all tokens of a kind have the same text. -/
def TokenKind.isMark (kind : TokenKind) : Bool :=
  kind.sign != ""

namespace Token

/-- A name as a token. -/
def word (name : String) : Token :=
  ⟨0, .name, name⟩

/-- A mark as a token. -/
def mark (kind : TokenKind) : Token :=
  ⟨0, kind, kind.sign⟩

/-- A relation as a token. -/
def sign (relation : Relation) : Token :=
  ⟨0, .relation, relation.text⟩

/-- A function call with the rows of its arguments. -/
def call (function : String) (arguments : List (List Token)) : List Token :=
  word function :: mark .openParen
    :: ([mark .comma].intercalate arguments ++ [mark .closeParen])

/-- An attribute of the node. -/
def attributeOf (name : String) : List Token :=
  [mark .atSign, word name]

/-- The rows that stand for the node's own text. -/
inductive OwnText : List Token → Prop
  | dot : OwnText [mark .dot]
  | text : OwnText (call "text" [])

/-- The arguments of a function that takes the node's own text unless it is told otherwise. -/
inductive OwnArguments : List (List Token) → Prop
  | none : OwnArguments []
  | single {source} (own : OwnText source) : OwnArguments [source]

/-- Names that can be an operand, which the words of the connectives can't. -/
def IsOperandName (name : String) : Prop :=
  IsLexeme .name name.toList ∧ ∀ connective : Connective, name ≠ connective.word

end Token

open Token

/-- The relation between equal or unequal texts. -/
def Equality.relation : Equality → Relation
  | equal => .equal
  | unequal => .unequal

-----------------------------------------------------------------------------------------
-- Predicates
-----------------------------------------------------------------------------------------

/-- The predicates that compare what a row stands for with a literal. -/
inductive Compares : List Token → Relation → Literal → Predicate → Prop
  | position {relation value}
    : Compares (call "position" []) relation (.number value) (.position relation value)
  | count {name relation value} (named : IsLexeme .name name.toList)
    : Compares (call "count" [[word name]]) relation (.number value) (.count name relation value)
  | textLength {arguments relation value} (own : OwnArguments arguments)
    : Compares (call "string-length" arguments) relation (.number value)
      (.textLength relation value)
  | attributeIs {name value} (named : IsOperandName name) (equality : Equality)
    : Compares (attributeOf name) equality.relation (.text value)
      (.attributeIs name equality value)
  | textIs {source value} (own : OwnText source) (equality : Equality)
    : Compares source equality.relation (.text value) (.textIs false equality value)
  | normalized {arguments value} (own : OwnArguments arguments) (equality : Equality)
    : Compares (call "normalize-space" arguments) equality.relation (.text value)
      (.textIs true equality value)
  | substring {source start first value} (own : OwnText source)
    (begins : (Literal.number (.finite start 0)).Spelled first) (equality : Equality)
    : Compares (call "substring" [source, [first]]) equality.relation (.text value)
      (.substring start none equality value)
  | substringOf {source start first length extent value} (own : OwnText source)
    (begins : (Literal.number (.finite start 0)).Spelled first)
    (ends : (Literal.number (.finite length 0)).Spelled extent) (equality : Equality)
    : Compares (call "substring" [source, [first], [extent]]) equality.relation (.text value)
      (.substring start (some length) equality value)
  | substringAfter {source delimiter token value} (own : OwnText source)
    (cut : (Literal.text delimiter).Spelled token) (equality : Equality)
    : Compares (call "substring-after" [source, [token]]) equality.relation (.text value)
      (.substringAfter delimiter equality value)
  | substringBefore {source delimiter token value} (own : OwnText source)
    (cut : (Literal.text delimiter).Spelled token) (equality : Equality)
    : Compares (call "substring-before" [source, [token]]) equality.relation (.text value)
      (.substringBefore delimiter equality value)
  | translated {source sources targets token token' value} (own : OwnText source)
    (first : (Literal.text sources).Spelled token) (second : (Literal.text targets).Spelled token')
    (equality : Equality)
    : Compares (call "translate" [source, [token], [token']]) equality.relation (.text value)
      (.translated (.ofTexts sources targets) equality value)

namespace Predicate

/-- The predicates of the language: numbers are those of some literal, texts are arbitrary. A name
that is compared or stands on its own must not be the word of a connective.
-/
def Supported : Predicate → Prop
  | position _ value => Literal.Denotable value
  | last => True
  | hasAttribute name => IsOperandName name
  | hasDescendant name => IsOperandName name
  | attributeIs name _ _ => IsOperandName name
  | attributeTest _ name _ => IsLexeme .name name.toList
  | textIs _ _ _ => True
  | textTest _ _ => True
  | substring start length _ _ =>
      Decimal.Representable start ∧ ∀ count ∈ length, Decimal.Representable count
  | substringAfter _ _ _ => True
  | substringBefore _ _ _ => True
  | translated map _ _ => ∃ sources targets, map = .ofTexts sources targets
  | count name _ value => IsLexeme .name name.toList ∧ Literal.Denotable value
  | textLength _ value => Literal.Denotable value
  | not predicate => predicate.Supported
  | join _ left right => left.Supported ∧ right.Supported

/-- What a predicate may be an operand of without parentheses: of nothing, of `or`, of both. -/
inductive Level where
  | disjunction
  | conjunction
  | operand

/-- The rows that spell a predicate at a level. -/
inductive Spelled : Level → Predicate → List Token → Prop
  | number {value token} (literal : (Literal.number value).Spelled token)
    : Spelled .operand (.position .equal value) [token]
  | last : Spelled .operand .last (call "last" [])
  | hasAttribute {name} (named : IsOperandName name)
    : Spelled .operand (.hasAttribute name) (attributeOf name)
  | hasDescendant {name} (named : IsOperandName name)
    : Spelled .operand (.hasDescendant name) [word name]
  | comparison {subject relation literal predicate token}
    (compares : Compares subject relation literal predicate) (spelled : literal.Spelled token)
    : Spelled .operand predicate (subject ++ [sign relation, token])
  | attributeTest {name value token} (test : StringTest) (named : IsLexeme .name name.toList)
    (literal : (Literal.text value).Spelled token)
    : Spelled .operand (.attributeTest test name value) (call test.name [attributeOf name, [token]])
  | textTest {source value token} (test : StringTest) (own : OwnText source)
    (literal : (Literal.text value).Spelled token)
    : Spelled .operand (.textTest test value) (call test.name [source, [token]])
  | not {predicate row} (inner : Spelled .disjunction predicate row)
    : Spelled .operand (.not predicate) (call "not" [row])
  | group {predicate row} (inner : Spelled .disjunction predicate row)
    : Spelled .operand predicate (mark .openParen :: (row ++ [mark .closeParen]))
  | operand {predicate row} (single : Spelled .operand predicate row)
    : Spelled .conjunction predicate row
  | conjoined {left right row more} (first : Spelled .conjunction left row)
    (second : Spelled .operand right more)
    : Spelled .conjunction (.join .and left right) (row ++ word Connective.and.word :: more)
  | conjunction {predicate row} (single : Spelled .conjunction predicate row)
    : Spelled .disjunction predicate row
  | disjoined {left right row more} (first : Spelled .disjunction left row)
    (second : Spelled .conjunction right more)
    : Spelled .disjunction (.join .or left right) (row ++ word Connective.or.word :: more)

end Predicate

-----------------------------------------------------------------------------------------
-- Steps
-----------------------------------------------------------------------------------------

/-- The rows that spell predicates, each in its own brackets. -/
inductive Predicates.Spelled : List Predicate → List Token → Prop
  | nil : Spelled [] []
  | cons {predicate row predicates more} (first : predicate.Spelled .disjunction row)
    (others : Spelled predicates more)
    : Spelled (predicate :: predicates)
      (mark .openBracket :: (row ++ mark .closeBracket :: more))

/-- The rows that spell a test; the names in tests are kept in lower case. -/
inductive NodeTest.Spelled : NodeTest → List Token → Prop
  | anyName : Spelled .anyName [mark .asterisk]
  | name {localName} (named : IsLexeme .name localName.toList)
    (lowered : localName.lowered = localName)
    : Spelled (.name localName) [word localName]
  | anyNode : Spelled .anyNode (call "node" [])
  | text : Spelled .text (call "text" [])

/-- The tests whose name, if there is one, is a name in lower case. -/
def NodeTest.Supported : NodeTest → Prop
  | name localName => IsLexeme .name localName.toList ∧ localName.lowered = localName
  | anyName | anyNode | text => True

/-- The steps of the language: those to attributes are not filtered. -/
structure Step.Supported (step : Step) : Prop where
  test : step.test.Supported
  predicates : ∀ predicate ∈ step.predicates, predicate.Supported
  unfiltered : step.axis = .attributes → step.predicates = []

/-- The rows that spell a step: its axis, its test and its predicates. -/
inductive Step.Spelled : Step → List Token → Prop
  | step {axis test row predicates groups} (tested : NodeTest.Spelled test row)
    (filtered : Predicates.Spelled predicates groups)
    (unfiltered : axis = .attributes → predicates = [])
    : Spelled ⟨axis, test, predicates⟩ (word axis.name :: mark .doubleColon :: (row ++ groups))

/-- The rows that spell steps with slashes between them. -/
inductive Steps.Spelled : List Step → List Token → Prop
  | single {step row} (only : step.Spelled row) : Spelled [step] row
  | cons {step row steps more} (first : step.Spelled row) (others : Spelled steps more)
    : Spelled (step :: steps) (row ++ mark .slash :: more)

/-- The texts that spell steps: there may be white space around all tokens. -/
def Steps.Written (steps : List Step) (text : String) : Prop :=
  ∃ tokens,
    Laid 0 tokens text.toList ∧ Steps.Spelled steps (tokens.map (placed fun _ => 0))

end HtmlQuery.XPath
