import HtmlQuery.Json.Writer
import HtmlQuery.Selection.Basic

/-! How selections and what is drawn from them are shown to readers. -/

namespace HtmlQuery.Selection

/-- The description of a selection, given the address under which it is kept. -/
def describe (address : String) (selection : Selection) : String :=
  "<Selector(selector=" ++ Text.shown selection.query ++ ", count=" ++ toString selection.count
    ++ ") [" ++ address ++ "]>"

/-- The description of values that were computed from a selection. -/
def describeMapped (values : List Json) : String :=
  "<MappedSelector(" ++ Json.shown (.array values) ++ ")>"

/-- The description of values that a query to JSON yielded. -/
def describeQueried (values : List Json) : String :=
  "<JsonSelector(" ++ Json.shown (.array values) ++ ")>"

end HtmlQuery.Selection
