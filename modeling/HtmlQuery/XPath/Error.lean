/-!
The report of an expression that can't be read completely: where that shows and the sixteen
characters that stand there.
-/

namespace HtmlQuery.XPath

/-- The characters from one position up to another one; negative positions count from the end. -/
def slice (text : List Char) (start stop : Int) : List Char :=
  let place (position : Int) : Nat :=
    (if position < 0 then position + text.length else position).toNat
  (text.take (place stop)).drop (place start)

/-- Why an expression was rejected; parts that aren't known are missing. -/
structure PathError where
  expression : Option String
  position : Option Int
  message : Option String
  deriving DecidableEq, Repr

namespace PathError

/-- The number of characters that are shown of an expression. -/
def excerptLength : Int := 16

/-- What is shown of the expression, followed by an ellipsis if it goes on. -/
def excerpt (error : PathError) : String :=
  let expression := (error.expression.getD "").toList
  let position := error.position.getD 0
  let stop := min (position + excerptLength) expression.length
  String.ofList (slice expression position stop)
    ++ (if stop < expression.length then "…" else "")

/-- The whole report. -/
def text (error : PathError) : String :=
  let place := "XPath parsing error at character " ++ toString (error.position.getD 0)
  let message := error.message.getD "None"
  if error.excerpt = "" then place ++ ": " ++ message
  else place ++ " (`" ++ error.excerpt ++ "`): " ++ message

/-- The report of an axis that doesn't exist. -/
def unknownAxis : PathError where
  expression := none
  position := none
  message := some "Invalid axis specifier."

end PathError

end HtmlQuery.XPath
