/-!
Ordered labelled trees and their places. A place is a subtree together with the frames around it,
innermost first, so everything that an axis can reach is at hand without searching the tree again.
-/

namespace HtmlQuery

universe u

/-- A tree whose nodes carry labels and have their children in order. -/
inductive Tree (α : Type u) where
  | node (label : α) (children : List (Tree α))

namespace Tree

variable {α : Type u}

/-- The label at the root of a tree. -/
def label : Tree α → α
  | node a _ => a

/-- The subtrees below the root, in order. -/
def children : Tree α → List (Tree α)
  | node _ trees => trees

mutual

/-- The labels of a tree in document order: each before those below it. -/
def preorder : Tree α → List α
  | node a trees => a :: preorderAll trees

/-- The labels of several trees, one tree after the other. -/
def preorderAll : List (Tree α) → List α
  | [] => []
  | tree :: rest => preorder tree ++ preorderAll rest

end

/-- What surrounds a subtree: its parent's label, the siblings before it, nearest first, and those
behind it.
-/
structure Frame (α : Type u) where
  parent : α
  before : List (Tree α)
  after : List (Tree α)

/-- A place in a tree: the subtree there and the frames around it, innermost first. -/
structure Place (α : Type u) where
  tree : Tree α
  frames : List (Frame α)

mutual

/-- The places of a subtree that stands within the given frames, in document order. -/
def placesWithin (frames : List (Frame α)) : Tree α → List (Place α)
  | node a trees => ⟨node a trees, frames⟩ :: placesAmong frames a [] trees

/-- The places of some siblings below a label, given those before them, nearest first. -/
def placesAmong (frames : List (Frame α)) (parent : α) (before : List (Tree α))
    : List (Tree α) → List (Place α)
  | [] => []
  | tree :: after =>
      placesWithin (⟨parent, before, after⟩ :: frames) tree
        ++ placesAmong frames parent (tree :: before) after

end

/-- All places of a tree, in document order. -/
def places (tree : Tree α) : List (Place α) :=
  placesWithin [] tree

/-- The first place whose label satisfies a test. -/
def find? (tree : Tree α) (test : α → Bool) : Option (Place α) :=
  tree.places.find? fun place => test place.tree.label

namespace Place

/-- The label at the place. -/
def label (place : Place α) : α :=
  place.tree.label

end Place

end Tree

end HtmlQuery
