import HtmlQuery.Document.Node

/-!
Addresses of attached nodes: the indices of the child nodes on the way from the document. They
change when nodes before them are taken away.
-/

namespace HtmlQuery

namespace Tree.Place

universe u

variable {α : Type u}

/-- The indices of the children on the way from the root to the place. -/
def indices (place : Place α) : List Nat :=
  place.frames.reverse.map fun frame => frame.before.length

end Tree.Place

namespace Tree

universe u

variable {α : Type u}

/-- The subtree that a row of child indices leads to. -/
def follow? : Tree α → List Nat → Option (Tree α)
  | tree, [] => some tree
  | tree, index :: rest => tree.children[index]?.bind fun child => follow? child rest

end Tree

namespace Document

/-- The node at an address. -/
def nodeAt? (document : Document) (indices : List Nat) : Option NodeRef :=
  (document.tree.follow? indices).map fun tree => tree.label.ref

/-- The address of a node; only attached nodes have one. -/
def address? (document : Document) (ref : NodeRef) : Option (List Nat) :=
  (document.tree.find? fun node => node.ref == ref).map Tree.Place.indices

end Document

end HtmlQuery
