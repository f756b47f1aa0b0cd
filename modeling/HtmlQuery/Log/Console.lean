import HtmlQuery.Json.Writer
import HtmlQuery.Log.Record

/-! Records as lines of text, and the choice where records go. -/

namespace HtmlQuery.Log

/-- The weight of a level, by which lines are filtered. -/
def Level.weight : Level → Nat
  | debug => 10
  | info => 20
  | warning => 30
  | error => 40

/-- The line of a record; an empty context is left out. -/
def Record.line (record : Record) : String :=
  let head := "[pluck:" ++ record.level.name ++ "] " ++ record.message
  if record.context.isEmpty then head
  else head ++ " " ++ Json.shown (.object (Json.membersOf record.context))

/-- The lines of all records that weigh at least as much as demanded. -/
def lines (least : Nat) (records : List Record) : List String :=
  (records.filter fun record => least ≤ record.level.weight).map Record.line

/-- Where records go. -/
inductive Destination where
  /-- To a recipient that the caller named. -/
  | given
  /-- To the console, as lines. -/
  | console
  /-- Nowhere. -/
  | nowhere
  deriving DecidableEq, Repr

/-- A named recipient comes first; without one the console serves if that was asked for. -/
def Destination.choose (debug hasRecipient : Bool) : Destination :=
  if hasRecipient then given else if debug then console else nowhere

end HtmlQuery.Log
