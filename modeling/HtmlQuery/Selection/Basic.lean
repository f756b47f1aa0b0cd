import HtmlQuery.Document.Removal
import HtmlQuery.Log.Record
import HtmlQuery.Selection.Extraction

/-!
Selections: what a query found in a document, in order and possibly several times, together with the
query. A selection outlives changes of its document; nodes that have been taken out of it stay in
the selection, but no query starts from them.
-/

namespace HtmlQuery

/-- Some nodes and texts and the query that selected them, which is empty at the start. -/
structure Selection where
  items : List Item
  query : String
  deriving DecidableEq, Repr

namespace Selection

open HtmlQuery.Log

/-- The selection to start from. -/
def start : Selection where
  items := [.node .document]
  query := ""

/-- The number of selected items. -/
def count (selection : Selection) : Nat :=
  selection.items.length

/-- Whether anything was selected. -/
def isOk (selection : Selection) : Bool :=
  !selection.items.isEmpty

/-- Whether a query can start from an item. -/
def isAttached (document : Document) : Item → Bool
  | .node ref => document.isAttached ref
  | .text _ => false

/-- The items that queries start from. -/
def contexts (document : Document) (selection : Selection) : List Item :=
  selection.items.filter (isAttached document)

/-- A selection of some items; the number of matches is reported unless the query is empty. -/
def report (items : List Item) (query : String) : Logged Selection := do
  if query ≠ "" then
    Logged.debug "selector matched"
      [("selector", .string query), ("matches", .integer items.length)]
  return ⟨items, query⟩

/-- The item at an index, if there is one; negative indexes count from the end. -/
def itemAt? (selection : Selection) (index : Int) : Option Item :=
  let place := if index < 0 then index + selection.items.length else index
  if place < 0 then none else selection.items[place.toNat]?

/-- The selection of the item at an index; one out of range selects nothing. -/
def pick (selection : Selection) (index : Int) : Logged Selection :=
  report (selection.itemAt? index).toList selection.query

/-- The selection of the first item. -/
def first (selection : Selection) : Logged Selection :=
  selection.pick 0

/-- The selection of the last item. -/
def last (selection : Selection) : Logged Selection :=
  selection.pick (-1)

/-- A selection for each item. -/
def singles (selection : Selection) : Logged (List Selection) :=
  selection.items.mapM fun item => report [item] selection.query

/-- The selection itself if it selected anything, else another one. -/
def orElse (selection fallback : Selection) : Selection :=
  if selection.isOk then selection else fallback

/-- The selected nodes. -/
def nodes (selection : Selection) : List NodeRef :=
  selection.items.filterMap fun item =>
    match item with
    | .node ref => some ref
    | .text _ => none

/-- Takes all selected nodes out of the document, one after the other. -/
def remove (selection : Selection) (document : Document) : Document :=
  document.removeAll selection.nodes

end Selection

end HtmlQuery
