import HtmlQuery.Proofs.Tree.Ascent

/-! Places below a place. They are the places of the subtree that stands there, so what is below one
of them is below the place as well, and what passes on to all trees below a root holds at all places.
-/

namespace HtmlQuery.Tree

universe u

variable {α : Type u}

/-- The place within further frames. -/
def Place.inside (outer : List (Frame α)) (place : Place α) : Place α where
  tree := place.tree
  frames := place.frames ++ outer

mutual

/-- The places of a subtree within further frames, by induction on the subtree. -/
theorem placesWithin_append (inner outer : List (Frame α))
    : (tree : Tree α) →
      placesWithin (inner ++ outer) tree = (placesWithin inner tree).map (Place.inside outer)
  | .node label trees => by
      rw [placesWithin, placesWithin, List.map_cons, placesAmong_append inner outer label [] trees]
      rfl

/-- The places of siblings within further frames, by induction on the siblings. -/
theorem placesAmong_append (inner outer : List (Frame α)) (parent : α) (before : List (Tree α))
    : (trees : List (Tree α)) →
      placesAmong (inner ++ outer) parent before trees
        = (placesAmong inner parent before trees).map (Place.inside outer)
  | [] => rfl
  | tree :: after => by
      rw [placesAmong, placesAmong, List.map_append,
        placesAmong_append inner outer parent (tree :: before) after, ← List.cons_append,
        placesWithin_append (⟨parent, before, after⟩ :: inner) outer tree]

end

mutual

/-- The places below a place of a subtree belong to the subtree, by induction on it. -/
theorem placesWithin_subset {frames : List (Frame α)} {place : Place α}
    : {tree : Tree α} → place ∈ placesWithin frames tree →
      placesWithin place.frames place.tree ⊆ placesWithin frames tree
  | .node label trees, member => by
      rw [placesWithin] at member
      rcases List.mem_cons.mp member with rfl | member
      · exact fun _ inside => inside
      · intro lower inside
        rw [placesWithin]
        exact List.mem_cons_of_mem _ (placesAmong_subset member inside)

/-- The places below a place of some siblings belong to the siblings, by induction on them. -/
theorem placesAmong_subset {frames : List (Frame α)} {parent : α} {place : Place α}
    : {before trees : List (Tree α)} → place ∈ placesAmong frames parent before trees →
      placesWithin place.frames place.tree ⊆ placesAmong frames parent before trees
  | _, [], member => by cases member
  | before, tree :: after, member => by
      intro lower inside
      rw [placesAmong] at member ⊢
      rcases List.mem_append.mp member with member | member
      · exact List.mem_append_left _ (placesWithin_subset member inside)
      · exact List.mem_append_right _ (placesAmong_subset member inside)

end

mutual

/-- What passes on from each tree to those below its root holds of the subtrees at all places, by
induction on the tree.
-/
theorem holds_of_mem_placesWithin {holds : Tree α → Prop}
    (passes : ∀ label trees, holds (.node label trees) → ∀ tree ∈ trees, holds tree)
    {frames : List (Frame α)} {place : Place α}
    : {tree : Tree α} → holds tree → place ∈ placesWithin frames tree → holds place.tree
  | .node label trees, own, member => by
      rw [placesWithin] at member
      rcases List.mem_cons.mp member with rfl | member
      · exact own
      · exact holds_of_mem_placesAmong passes (passes label trees own) member

/-- The same of the places of some siblings, by induction on them. -/
theorem holds_of_mem_placesAmong {holds : Tree α → Prop}
    (passes : ∀ label trees, holds (.node label trees) → ∀ tree ∈ trees, holds tree)
    {frames : List (Frame α)} {parent : α} {place : Place α}
    : {before trees : List (Tree α)} → (∀ tree ∈ trees, holds tree) →
      place ∈ placesAmong frames parent before trees → holds place.tree
  | _, [], _, member => by cases member
  | _, tree :: after, own, member => by
      rw [placesAmong] at member
      rcases List.mem_append.mp member with member | member
      · exact holds_of_mem_placesWithin passes (own tree List.mem_cons_self) member
      · exact holds_of_mem_placesAmong passes
          (fun other inside => own other (List.mem_cons_of_mem _ inside)) member

end

/-- What is below a place stands in a place of the subtree there. -/
theorem exists_place_within_of_mem_descendants {tree : Tree α} {place : Place α}
    (member : place ∈ tree.places) {label : α} (below : label ∈ place.descendants)
    : ∃ lower ∈ place.tree.places,
        lower.label = label ∧ lower.inside place.frames ∈ tree.places := by
  have inner : label ∈ place.tree.preorder := by
    obtain ⟨⟨root, trees⟩, frames⟩ := place
    exact List.mem_cons_of_mem _ below
  rw [← labels_places] at inner
  obtain ⟨lower, among, rfl⟩ := List.mem_map.mp inner
  have inside := placesWithin_append [] place.frames place.tree
  rw [List.nil_append] at inside
  refine ⟨lower, among, rfl, placesWithin_subset member ?_⟩
  rw [inside]
  exact List.mem_map_of_mem among

/-- What is below a place stands in a place of its own, and all that is below that is below the
first place.
-/
theorem exists_place_of_mem_descendants {tree : Tree α} {place : Place α}
    (member : place ∈ tree.places) {label : α} (below : label ∈ place.descendants)
    : ∃ lower ∈ tree.places, lower.label = label ∧ lower.descendants ⊆ place.descendants := by
  obtain ⟨lower, among, rfl, inside⟩ := exists_place_within_of_mem_descendants member below
  refine ⟨lower.inside place.frames, inside, rfl, fun other deeper => ?_⟩
  have within := mem_tail_preorder_of_mem_descendants among deeper
  obtain ⟨⟨root, trees⟩, frames⟩ := place
  exact within

end HtmlQuery.Tree
