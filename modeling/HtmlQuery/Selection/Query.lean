import HtmlQuery.Css.Query
import HtmlQuery.Markup.Reading
import HtmlQuery.Selection.Basic
import HtmlQuery.XPath.Union

/-!
Queries that start from the attached nodes of a selection. A query that can't be read selects nothing
and is reported once.
-/

namespace HtmlQuery.Selection

open HtmlQuery.Log

/-- What makes a query fail although it can be read. -/
inductive Fault where
  /-- A selector holds a character that can occur in no document. -/
  | forbiddenCharacter
  | path (fault : XPath.Fault)
  /-- The attribute to take from a selected element has no possible name. -/
  | attributeName (refusal : Attribute.Refusal)
  deriving DecidableEq, Repr

/-- How a fault is reported. -/
def Fault.message : Fault → String
  | forbiddenCharacter => Css.Failure.forbiddenCharacter.message
  | path fault => fault.message
  | attributeName refusal => refusal.message

/-- Why a branch of an expression results in nothing. -/
inductive Failure where
  | unreadable (error : XPath.PathError)
  | fault (fault : Fault)

/-- A failure of an evaluation as one of the branch that is evaluated. -/
def Failure.ofEvaluation : XPath.Failure → Failure
  | .unreadable error => .unreadable error
  | .fault raised => .fault (.path raised)

/-- The document of a source and a report if the source is refused, which makes the document empty. -/
def load (options : Markup.Options) (source : Markup.Source) : Logged Document :=
  match Markup.read options source with
  | .ok document => return document
  | .error refusal => do
      Logged.warning "pluck called with invalid html input"
        [("type", .string source.kindName), ("error", .string refusal.message)]
      return .empty

/-- What is taken from the items that a query leads to. -/
def take (document : Document) (extraction : Extraction) (items : List Item)
    : Except Fault (List Item) :=
  (extraction.apply document items).mapError .attributeName

/-- The elements below the selected ones that a selector matches, or what is taken from them. -/
def css (document : Document) (selection : Selection) (query : String)
    : Logged (Except Fault Selection) :=
  let extracting := Extracting.split query
  match Css.select document extracting.query (selection.contexts document) with
  | .ok refs =>
      match take document extracting.extraction (refs.map Item.node) with
      | .ok items => do
          return .ok (← report items query)
      | .error fault => return .error fault
  | .error .forbiddenCharacter => return .error .forbiddenCharacter
  | .error .invalid => do
      Logged.warning "invalid CSS selector"
        [("selector", .string query), ("parsed", .string extracting.query),
          ("error", .string Css.Failure.invalid.message)]
      return .ok (← report [] query)

/-- Items in which no node occurs a second time, nor one of some given nodes; texts may be repeated.
-/
def withoutRepeatedNodes (seen : List NodeRef) : List Item → List Item
  | [] => []
  | .text value :: rest => .text value :: withoutRepeatedNodes seen rest
  | .node ref :: rest =>
      if seen.contains ref then withoutRepeatedNodes seen rest
      else .node ref :: withoutRepeatedNodes (ref :: seen) rest

/-- What a branch selects, or what is taken from that. -/
def evaluateBranch (document : Document) (contexts : List Item) (branch : String)
    : ExceptT Failure Logged (List Item) := do
  let extracting := Extracting.split branch
  let items ← (XPath.evaluate document extracting.query contexts).adapt Failure.ofEvaluation
  ExceptT.mk (pure ((take document extracting.extraction items).mapError Failure.fault))

/-- What the branches of a union result in, one after the other. -/
def evaluateBranches (document : Document) (contexts : List Item)
    : List String → ExceptT Failure Logged (List Item)
  | [] => return []
  | branch :: rest => do
      let items ← evaluateBranch document contexts branch
      let others ← evaluateBranches document contexts rest
      return items ++ others

/-- The empty result of an expression of which a part can't be read. -/
def unreadable (query remainder error : String) : Logged (Except Fault Selection) := do
  Logged.warning "xpath could not be parsed completely"
    [("query", .string query), ("remainder", .string remainder), ("error", .string error)]
  return .ok (← report [] query)

/--
What an expression selects, or what is taken from that. Of several branches every one must be
readable, and their nodes are listed once.
-/
def xpath (document : Document) (selection : Selection) (query : String)
    : Logged (Except Fault Selection) := do
  let branches := XPath.branches query
  if branches.isEmpty then unreadable query query "Empty expression."
  else
    match ← (evaluateBranches document (selection.contexts document) branches).run with
    | .ok items =>
        return .ok (← report
          (if 1 < branches.length then withoutRepeatedNodes [] items else items) query)
    | .error (.unreadable error) =>
        let expression := (error.expression.getD "").toList
        let remainder := expression.drop (error.position.getD 0).toNat
        unreadable query (String.ofList remainder) error.text
    | .error (.fault fault) => return .error fault

end HtmlQuery.Selection
