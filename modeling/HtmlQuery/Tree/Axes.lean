import HtmlQuery.Tree.Basic

/-!
The labels that can be reached from a place. Ancestors and preceding siblings are listed nearest
first, everything else in document order.
-/

namespace HtmlQuery.Tree.Place

universe u

variable {α : Type u}

/-- The labels of the subtrees below the place. -/
def children (place : Place α) : List α :=
  place.tree.children.map Tree.label

/-- All labels below the place. -/
def descendants (place : Place α) : List α :=
  preorderAll place.tree.children

/-- The label above the place. -/
def parent? (place : Place α) : Option α :=
  place.frames.head?.map Frame.parent

/-- The labels above the place, nearest first. -/
def ancestors (place : Place α) : List α :=
  place.frames.map Frame.parent

/-- The siblings behind the place. -/
def followingSiblings (place : Place α) : List α :=
  match place.frames with
  | [] => []
  | frame :: _ => frame.after.map Tree.label

/-- The siblings before the place, nearest first. -/
def precedingSiblings (place : Place α) : List α :=
  match place.frames with
  | [] => []
  | frame :: _ => frame.before.map Tree.label

/-- Everything behind the place but what is below it. -/
def following (place : Place α) : List α :=
  place.frames.flatMap fun frame => preorderAll frame.after

/-- Everything before the place but what is above it. -/
def preceding (place : Place α) : List α :=
  place.frames.reverse.flatMap fun frame => preorderAll frame.before.reverse

end HtmlQuery.Tree.Place
