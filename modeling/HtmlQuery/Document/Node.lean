import HtmlQuery.Document.Basic
import HtmlQuery.Tree.Axes

/-!
The nodes of a document: the document itself, its elements and its texts. Comments and processing
instructions are none, but they keep the texts around them apart. The nodes form a tree, and so does
each part that was taken out of the document.
-/

namespace HtmlQuery

/-- A node with what it shows in one state of its document. -/
inductive Node where
  | document
  | element (id : Nat) (tag : String) (attributes : List Attribute)
  | text (slot : Slot) (content : String)
  deriving DecidableEq, Repr

namespace Node

/-- The name under which the node is known in every state of its document. -/
def ref : Node → NodeRef
  | document => .document
  | element id _ _ => .element id
  | text slot _ => .text slot

end Node

/-- The node of a slot, which exists only while the slot holds any text. -/
def Slot.trees (slot : Slot) (content : String) : List (Tree Node) :=
  if content = "" then [] else [.node (.text slot content) []]

namespace Branch

/-- The nodes of some siblings, each with the text behind it. -/
def nodesAmong : List Branch → List (Tree Node)
  | [] => []
  | mk id kind lead children tail :: rest =>
      match kind with
      | .element tag attributes =>
          .node (.element id tag attributes) (Slot.trees (.lead id) lead ++ nodesAmong children)
            :: (Slot.trees (.tail id) tail ++ nodesAmong rest)
      | _ => Slot.trees (.tail id) tail ++ nodesAmong rest

/-- The nodes below a branch. -/
def nodesBelow (branch : Branch) : List (Tree Node) :=
  Slot.trees (.lead branch.id) branch.lead ++ nodesAmong branch.children

end Branch

namespace Document

/-- The tree of all attached nodes. -/
def tree (document : Document) : Tree Node :=
  .node .document
    (if document.isFragment then document.top.nodesBelow else Branch.nodesAmong [document.top])

/-- The trees of the parts that were taken out of the document. -/
def detachedTrees (document : Document) : List (Tree Node) :=
  Branch.nodesAmong document.detached

/-- The place of a node in the document or in one of the parts taken out of it. -/
def place? (document : Document) (ref : NodeRef) : Option (Tree.Place Node) :=
  (document.tree :: document.detachedTrees).findSome? fun tree =>
    tree.find? fun node => node.ref == ref

/-- The nodes that a node leads to along an axis; a text node without text leads nowhere. -/
def along (document : Document) (axis : Tree.Place Node → List Node) (ref : NodeRef) : List Node :=
  ((document.place? ref).map axis).getD []

/-- The parent of a node. -/
def parent? (document : Document) (ref : NodeRef) : Option NodeRef :=
  (document.place? ref).bind fun place => place.parent?.map Node.ref

/-- A node as it is in the current state, also if it has been taken out or emptied. -/
def node? (document : Document) : NodeRef → Option Node
  | .document => some .document
  | .element id =>
      match document.branch? id with
      | some (.mk _ (.element tag attributes) _ _ _) => some (.element id tag attributes)
      | _ => none
  | .text slot => some (.text slot (document.content slot))

/-- The attributes of an element, none for other nodes. -/
def attributes (document : Document) (ref : NodeRef) : List Attribute :=
  match document.node? ref with
  | some (.element _ _ attributes) => attributes
  | _ => []

end Document

end HtmlQuery
