import HtmlQuery.Json.Basic

/-!
What queries report while they run. Every computation carries the records it made, in order, also
when it fails.
-/

namespace HtmlQuery.Log

/-- How much a record matters. -/
inductive Level where
  | debug
  | info
  | warning
  | error
  deriving DecidableEq, Repr

/-- The name of a level. -/
def Level.name : Level → String
  | debug => "debug"
  | info => "info"
  | warning => "warning"
  | error => "error"

/-- A message with named values that tell what it is about. -/
structure Record where
  level : Level
  message : String
  context : List (String × Json)

/-- A result together with the records that were made on the way to it. -/
structure Logged (α : Type) where
  value : α
  records : List Record

namespace Logged

instance : Monad Logged where
  pure value := ⟨value, []⟩
  bind first next :=
    let second := next first.value
    ⟨second.value, first.records ++ second.records⟩

/-- Makes one record. -/
def emit (record : Record) : Logged Unit :=
  ⟨(), [record]⟩

/-- Makes a debug record. -/
def debug (message : String) (context : List (String × Json)) : Logged Unit :=
  emit ⟨.debug, message, context⟩

/-- Makes a warning. -/
def warning (message : String) (context : List (String × Json)) : Logged Unit :=
  emit ⟨.warning, message, context⟩

end Logged

end HtmlQuery.Log
