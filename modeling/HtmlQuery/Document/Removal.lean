import HtmlQuery.Document.Basic

/-!
Taking nodes out of a document. The text behind a removed branch joins the text in front of it: that
behind the previous sibling of whatever kind, or the leading text of the parent.
-/

namespace HtmlQuery

namespace Branch

/--
The siblings that remain when all branches with a number in question are taken away, at any depth.
The first component is the text in front of them, which takes up the texts behind branches removed
from the front.
-/
def pruneAmong (gone : Nat → Bool) (front : String) : List Branch → String × List Branch
  | [] => (front, [])
  | mk id kind lead children tail :: rest =>
      if gone id then pruneAmong gone (front ++ tail) rest
      else
        let (lead, children) := pruneAmong gone lead children
        let (tail, rest) := pruneAmong gone tail rest
        (front, mk id kind lead children tail :: rest)

/-- The branch without all branches below it that have a number in question. -/
def prune (gone : Nat → Bool) : Branch → Branch
  | mk id kind lead children tail =>
      let (lead, children) := pruneAmong gone lead children
      mk id kind lead children tail

/-- Some siblings in which one slot at any depth holds no text any more. -/
def clearAmong (slot : Slot) : List Branch → List Branch
  | [] => []
  | mk id kind lead children tail :: rest =>
      mk id kind (if slot = .lead id then "" else lead) (clearAmong slot children)
        (if slot = .tail id then "" else tail)
        :: clearAmong slot rest

/-- The branch in which one slot at or below it holds no text any more. -/
def clear (slot : Slot) : Branch → Branch
  | mk id kind lead children tail =>
      mk id kind (if slot = .lead id then "" else lead) (clearAmong slot children) tail

end Branch

namespace Document

/-- Takes an element out of the tree; the root and elements that aren't in the tree stay. -/
def removeElement (document : Document) (id : Nat) : Document :=
  match Branch.findAmong? id document.top.children with
  | none => document
  | some branch =>
      { document with
        top := document.top.prune (· == id)
        detached := branch.withTail "" :: document.detached }

/-- Takes a node out of the tree. The document, its root and detached nodes are left as they are. -/
def remove (document : Document) : NodeRef → Document
  | .document => document
  | .element id => document.removeElement id
  | .text slot =>
      if document.isAttached (.text slot) then { document with top := document.top.clear slot }
      else document

/-- Takes several nodes out of the tree, one after the other. -/
def removeAll (document : Document) (refs : List NodeRef) : Document :=
  refs.foldl remove document

end Document

end HtmlQuery
