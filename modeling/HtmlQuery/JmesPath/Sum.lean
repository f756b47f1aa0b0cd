import HtmlQuery.JmesPath.Failure
import HtmlQuery.Json.Number

/-!
Sums of numbers. Integers add up exactly. From the first floating point number on the sum is one too,
and what each addition of such a number loses is kept apart and added in the end.
-/

namespace HtmlQuery.JmesPath

/-- A sum under way. -/
inductive Sum where
  | exact (value : Int)
  | rounded (value loss : Float)

namespace Sum

/-- The floating point number nearest to an integer, if there is a finite one. -/
def floatOf (value : Int) : Except Failure Float :=
  let nearest := Json.ofInteger value
  if nearest.isInf then .error .excessiveInteger else .ok nearest

/-- The sum with one more number; other values count for nothing. -/
def add (sum : Sum) (term : Json) : Except Failure Sum :=
  match sum, term with
  | exact value, .integer term => .ok (exact (value + term))
  | exact value, .float term => do
      .ok (rounded ((← floatOf value) + term) 0)
  | rounded value loss, .integer term => do
      .ok (rounded (value + (← floatOf term)) loss)
  | rounded value loss, .float term =>
      let total := value + term
      let lost :=
        if term.abs ≤ value.abs then (value - total) + term else (term - total) + value
      .ok (rounded total (loss + lost))
  | sum, _ => .ok sum

/-- The result; a loss that isn't finite is left out. -/
def value : Sum → Json
  | exact value => .integer value
  | rounded value loss =>
      .float (if loss == 0 || loss.isNaN || loss.isInf then value else value + loss)

/-- The sum of some numbers. -/
def total (numbers : List Json) : Except Failure Json := do
  let sum ← numbers.foldlM add (exact 0)
  .ok sum.value

/-- The arithmetic mean of some numbers, which an empty list lacks. -/
def mean (numbers : List Json) : Except Failure Json := do
  if numbers.isEmpty then return .null
  match ← total numbers with
  | .integer value =>
      let quotient := Json.ofQuotient value numbers.length
      if quotient.isInf then .error .excessiveInteger else .ok (.float quotient)
  | .float value => .ok (.float (value / Json.ofInteger numbers.length))
  | other => .ok other

end Sum

end HtmlQuery.JmesPath
