import HtmlQuery.JmesPath.Expression

/-! Why queries fail. -/

namespace HtmlQuery.JmesPath

/-- The causes of failure; kinds of values are given by their names. -/
inductive Failure where
  /-- The text is no query. -/
  | unreadable
  | unknownFunction (name : String)
  | argumentCount (function : String)
  | argumentKind (function : String)
  | zeroStep
  /-- A value that is no number can't be rounded. -/
  | roundedNotANumber
  | roundedInfinity
  | excessiveInteger
  | incomparable (relation : Relation) (left right : String)
  /-- Something that is no text was sought in a text. -/
  | soughtInText (kind : String)
  | mergedNoMembers (kind : String)
  | mergedNoPairs (length : Nat)
  deriving DecidableEq, Repr

/-- What kind of mistake a failure is. -/
inductive Failure.Class where
  /-- The query can't be put to any value or not to this one. -/
  | query
  /-- A value can't be used as it is. -/
  | value
  | kind
  | overflow
  deriving DecidableEq, Repr

namespace Failure

/-- The class of a failure. -/
def classOf : Failure → Failure.Class
  | unreadable | unknownFunction _ | argumentCount _ | argumentKind _ => .query
  | zeroStep | roundedNotANumber | mergedNoPairs _ => .value
  | roundedInfinity | excessiveInteger => .overflow
  | incomparable _ _ _ | soughtInText _ | mergedNoMembers _ => .kind

/-- How a failure is reported. -/
def message : Failure → String
  | unreadable => "The query can't be read."
  | unknownFunction name => "Unknown function: " ++ name ++ "()"
  | argumentCount function => "Wrong number of arguments for function " ++ function ++ "()"
  | argumentKind function => "Wrong type of argument for function " ++ function ++ "()"
  | zeroStep => "slice step cannot be zero"
  | roundedNotANumber => "cannot convert float NaN to integer"
  | roundedInfinity => "cannot convert float infinity to integer"
  | excessiveInteger => "int too large to convert to float"
  | incomparable relation left right =>
      "'" ++ relation.text ++ "' not supported between instances of '" ++ left ++ "' and '"
        ++ right ++ "'"
  | soughtInText kind => "'in <string>' requires string as left operand, not " ++ kind
  | mergedNoMembers kind => "'" ++ kind ++ "' object is not iterable"
  | mergedNoPairs length =>
      "dictionary update sequence element #0 has length " ++ toString length ++ "; 2 is required"

end Failure

end HtmlQuery.JmesPath
