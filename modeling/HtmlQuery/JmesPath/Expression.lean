import HtmlQuery.Json.Basic

/-! Queries on JSON values. -/

namespace HtmlQuery.JmesPath

/-- The comparisons of values. -/
inductive Relation where
  | less
  | lessOrEqual
  | greater
  | greaterOrEqual
  | equal
  | unequal
  deriving DecidableEq, Repr

/-- How a relation is written. -/
def Relation.text : Relation → String
  | less => "<"
  | lessOrEqual => "<="
  | greater => ">"
  | greaterOrEqual => ">="
  | equal => "=="
  | unequal => "!="

/-- A query; each part is put to a value. -/
inductive Expression where
  | current
  | field (name : String)
  | literal (value : Json)
  | index (position : Int)
  | slice (start stop step : Option Int)
  /-- The second query is put to the result of the first one. -/
  | chain (first second : Expression)
  /-- An index or slice of a result. -/
  | indexed (base access : Expression)
  | compare (relation : Relation) (left right : Expression)
  | either (left right : Expression)
  | both (left right : Expression)
  | not (operand : Expression)
  /-- The second query is put to all items of an array. -/
  | project (base right : Expression)
  /-- The second query is put to the values of all members of an object. -/
  | projectValues (base right : Expression)
  /-- The second query is put to the items of an array that satisfy a condition. -/
  | projectFiltered (base right condition : Expression)
  | flatten (base : Expression)
  | list (items : List Expression)
  | members (names : List String) (values : List Expression)
  | call (function : String) (arguments : List Expression)
  /-- A query that a function is given as it is. -/
  | reference (query : Expression)

end HtmlQuery.JmesPath
