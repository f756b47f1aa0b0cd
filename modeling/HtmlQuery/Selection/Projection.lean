import HtmlQuery.JmesPath.Evaluate
import HtmlQuery.Pattern.Extract
import HtmlQuery.Pattern.Reader
import HtmlQuery.Selection.Value

/-!
What is drawn from the values of selections: parts that match a pattern, and results of queries to
values that are JSON. What fails is reported and left out.
-/

namespace HtmlQuery.Selection

open HtmlQuery.Log

/--
The parts of all values that match a pattern. One that is invalid is reported and matches nothing,
one that is too large is a failure.
-/
def matching (document : Document) (selection : Selection) (options : Pattern.Options)
    (pattern : String)
    : Logged (Except Pattern.Fault (List String)) := do
  match Pattern.read options pattern with
  | .ok compiled => return .ok (compiled.extractAll (selection.values document))
  | .error .invalid =>
      Logged.warning "invalid regular expression"
        [("pattern", .string pattern), ("error", .string Pattern.Fault.invalid.message)]
      return .ok []
  | .error fault => return .error fault

/-- Results of queries without nulls. -/
def present (results : List Json) : List Json :=
  results.filter fun result =>
    match result with
    | .null => false
    | _ => true

/-- The results of a query to JSON values; a value that the query can't be put to is reported. -/
def queryValues (query : String)
    : List Json → Logged (Except JmesPath.Failure (List Json))
  | [] => return .ok []
  | value :: rest => do
      match JmesPath.search query value with
      | .ok result => return (← queryValues query rest).map fun others => present [result] ++ others
      | .error failure =>
          if failure.classOf = .query then do
            Logged.warning "jmespath query failed"
              [("query", .string query), ("error", .string failure.message)]
            queryValues query rest
          else return .error failure

/-- The number of characters that are shown of a value that isn't JSON. -/
def previewLength : Nat := 100

/-- The result of a query to a text that should be JSON; without one the reason is given. -/
def queryText (query text : String) : Except JmesPath.Failure (Json ⊕ String) :=
  match Json.read? text with
  | none => .ok (.inr "The value is no JSON.")
  | some value =>
      match JmesPath.search query value with
      | .ok result => .ok (.inl result)
      | .error failure =>
          if failure.classOf = .query ∨ failure.classOf = .value then .ok (.inr failure.message)
          else .error failure

/-- The results of a query to texts; one that isn't JSON or can't be queried is reported. -/
def queryTexts (query : String)
    : List String → Logged (Except JmesPath.Failure (List Json))
  | [] => return .ok []
  | text :: rest => do
      match queryText query text with
      | .ok (.inl result) =>
          return (← queryTexts query rest).map fun others => present [result] ++ others
      | .ok (.inr reason) => do
          Logged.warning "jmespath failed to parse or query JSON"
            [("query", .string query), ("error", .string reason),
              ("value_preview", .string (String.ofList (text.toList.take previewLength)))]
          queryTexts query rest
      | .error failure => return .error failure

/-- The results of a query to all values of a selection. -/
def jmespath (document : Document) (selection : Selection) (query : String)
    : Logged (Except JmesPath.Failure (List Json)) :=
  queryTexts query (selection.values document)

end HtmlQuery.Selection
