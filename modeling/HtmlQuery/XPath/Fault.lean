/-! What can go wrong with an expression beyond its form. -/

namespace HtmlQuery.XPath

/-- The faults of expressions whose form is fine. -/
inductive Fault where
  /-- An integer is needed, but the literal is too large for a number. -/
  | infiniteInteger
  /-- A text is to be cut at an empty delimiter. -/
  | emptyDelimiter
  deriving DecidableEq, Repr

/-- How a fault is reported. -/
def Fault.message : Fault → String
  | infiniteInteger => "cannot convert float infinity to integer"
  | emptyDelimiter => "empty separator"

end HtmlQuery.XPath
