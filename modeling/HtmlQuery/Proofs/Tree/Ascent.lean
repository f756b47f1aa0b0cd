import HtmlQuery.Proofs.Tree.Order

/-! The way up from a place. The place around another one has it as a child, and going on like that
leads to the root, over the labels that are listed as ancestors.
-/

namespace HtmlQuery.Tree

universe u

variable {α : Type u}

/-- The place around a place, unless the place is where its tree begins. -/
def Place.up? (place : Place α) : Option (Place α) :=
  match place.frames with
  | [] => none
  | frame :: outer =>
      some ⟨.node frame.parent (frame.before.reverse ++ place.tree :: frame.after), outer⟩

-----------------------------------------------------------------------------------------
-- One place up
-----------------------------------------------------------------------------------------

/-- The frames of the place around are the outer ones. -/
theorem Place.frames_of_up? {place around : Place α} (found : place.up? = some around)
    : ∃ frame,
        place.frames = frame :: around.frames
        ∧ around.tree = .node frame.parent (frame.before.reverse ++ place.tree :: frame.after) := by
  unfold Place.up? at found
  split at found
  · cases found
  · rename_i frame outer shape
    cases found
    exact ⟨frame, shape, rfl⟩

/-- What is above a place is its parent and what is above that. -/
theorem Place.ancestors_of_up? {place around : Place α} (found : place.up? = some around)
    : place.ancestors = around.label :: around.ancestors := by
  obtain ⟨frame, shape, tree⟩ := Place.frames_of_up? found
  rw [Place.ancestors, shape, Place.label, tree]
  rfl

theorem Place.parent?_of_up? {place around : Place α} (found : place.up? = some around)
    : place.parent? = some around.label := by
  obtain ⟨frame, shape, tree⟩ := Place.frames_of_up? found
  rw [Place.parent?, shape, Place.label, tree]
  rfl

/-- The place around has the place as one of its children. -/
theorem Place.label_mem_children_of_up? {place around : Place α} (found : place.up? = some around)
    : place.label ∈ around.children := by
  obtain ⟨frame, -, tree⟩ := Place.frames_of_up? found
  rw [Place.children, tree]
  exact List.mem_map_of_mem (by simp [Tree.children])

mutual

/-- A place of a subtree is the subtree's own one, or another place of the subtree is around it. -/
theorem up?_of_mem_placesWithin {frames : List (Frame α)} {place : Place α}
    : {tree : Tree α} → place ∈ placesWithin frames tree →
      place = ⟨tree, frames⟩ ∨ ∃ around ∈ placesWithin frames tree, place.up? = some around
  | .node label trees, member => by
      rw [placesWithin] at member
      rcases List.mem_cons.mp member with same | member
      · exact .inl same
      · obtain ⟨around, found, inside⟩ := up?_of_mem_placesAmong member
        refine .inr ⟨around, ?_, found⟩
        rw [placesWithin]
        rcases inside with rfl | inside
        · exact List.mem_cons_self
        · exact List.mem_cons_of_mem _ inside

/-- The place around one among siblings is their parent's place or another one among them. -/
theorem up?_of_mem_placesAmong {frames : List (Frame α)} {parent : α} {place : Place α}
    : {before trees : List (Tree α)} → place ∈ placesAmong frames parent before trees →
      ∃ around, place.up? = some around
        ∧ (around = ⟨.node parent (before.reverse ++ trees), frames⟩
          ∨ around ∈ placesAmong frames parent before trees)
  | _, [], member => by cases member
  | before, tree :: after, member => by
      rw [placesAmong] at member ⊢
      rcases List.mem_append.mp member with member | member
      · rcases up?_of_mem_placesWithin member with rfl | ⟨around, inside, found⟩
        · exact ⟨_, rfl, .inl rfl⟩
        · exact ⟨around, found, .inr (List.mem_append_left _ inside)⟩
      · obtain ⟨around, found, same | inside⟩ := up?_of_mem_placesAmong member
        · refine ⟨around, found, .inl ?_⟩
          rw [same, List.reverse_cons, List.append_assoc, List.singleton_append]
        · exact ⟨around, found, .inr (List.mem_append_right _ inside)⟩

end

/-- A place of a tree is the root's, or another place of the tree is around it. -/
theorem up?_of_mem_places {tree : Tree α} {place : Place α} (member : place ∈ tree.places)
    : place = ⟨tree, []⟩ ∨ ∃ around ∈ tree.places, place.up? = some around :=
  up?_of_mem_placesWithin member

-----------------------------------------------------------------------------------------
-- All the way up
-----------------------------------------------------------------------------------------

/-- The way up from a place of a tree ends at the root, by induction on the frames. -/
theorem getLast?_ancestors {tree : Tree α} {place : Place α} (member : place ∈ tree.places)
    : (place.label :: place.ancestors).getLast? = some tree.label := by
  induction depth : place.frames.length generalizing place with
  | zero =>
      rcases up?_of_mem_places member with rfl | ⟨around, -, found⟩
      · rfl
      · obtain ⟨frame, shape, -⟩ := Place.frames_of_up? found
        simp [shape] at depth
  | succ depth' ih =>
      rcases up?_of_mem_places member with rfl | ⟨around, inside, found⟩
      · cases depth
      · obtain ⟨frame, shape, -⟩ := Place.frames_of_up? found
        rw [shape, List.length_cons] at depth
        rw [Place.ancestors_of_up? found, List.getLast?_cons_cons]
        exact ih inside (by omega)

/-- All that is above a place of a tree is in the tree. -/
theorem mem_preorder_of_mem_ancestors {tree : Tree α} {place : Place α}
    (member : place ∈ tree.places) {label : α} (above : label ∈ place.ancestors)
    : label ∈ tree.preorder := by
  rw [preorder_of_mem_places member]
  apply List.mem_append_left
  obtain ⟨frame, within, rfl⟩ := List.mem_map.mp above
  exact List.mem_flatMap.mpr ⟨frame, List.mem_reverse.mpr within, List.mem_cons_self⟩

/-- The labels of some trees' roots are among all their labels, in the same order. -/
theorem labels_sublist_preorderAll (trees : List (Tree α))
    : (trees.map Tree.label).Sublist (preorderAll trees) := by
  induction trees with
  | nil => exact List.Sublist.refl _
  | cons tree trees ih =>
      obtain ⟨label, below⟩ := tree
      rw [List.map_cons, preorderAll, preorder, List.cons_append]
      exact (ih.trans (List.sublist_append_right _ _)).cons_cons label

/-- A place's children are among the labels of the tree, in the same order. -/
theorem children_sublist_preorder {tree : Tree α} {place : Place α} (member : place ∈ tree.places)
    : place.children.Sublist tree.preorder := by
  have below : place.children.Sublist (place.descendants ++ place.following) :=
    (labels_sublist_preorderAll _).trans (List.sublist_append_left _ _)
  rw [preorder_of_mem_places member]
  exact (below.cons _).trans (List.sublist_append_right _ _)

-----------------------------------------------------------------------------------------
-- Sideways and down
-----------------------------------------------------------------------------------------

/-- What is below a place is in the tree, but not at the root. -/
theorem mem_tail_preorder_of_mem_descendants {tree : Tree α} {place : Place α}
    (member : place ∈ tree.places) {label : α} (below : label ∈ place.descendants)
    : label ∈ tree.preorder.tail := by
  have behind : label ∈ place.descendants ++ place.following := List.mem_append_left _ below
  rw [preorder_of_mem_places member]
  cases place.before with
  | nil => exact behind
  | cons first rest => exact List.mem_append_right _ (List.mem_cons_of_mem _ behind)

theorem mem_preorder_of_mem_following {tree : Tree α} {place : Place α}
    (member : place ∈ tree.places) {label : α} (behind : label ∈ place.following)
    : label ∈ tree.preorder := by
  rw [preorder_of_mem_places member]
  exact List.mem_append_right _ (List.mem_cons_of_mem _ (List.mem_append_right _ behind))

theorem mem_preorder_of_mem_preceding {tree : Tree α} {place : Place α}
    (member : place ∈ tree.places) {label : α} (precedes : label ∈ place.preceding)
    : label ∈ tree.preorder := by
  rw [preorder_of_mem_places member]
  apply List.mem_append_left
  obtain ⟨frame, within, inside⟩ := List.mem_flatMap.mp precedes
  exact List.mem_flatMap.mpr ⟨frame, within, List.mem_cons_of_mem _ inside⟩

/-- The siblings behind a place follow it. -/
theorem Place.mem_following_of_mem_followingSiblings {place : Place α} {label : α}
    (behind : label ∈ place.followingSiblings)
    : label ∈ place.following := by
  obtain ⟨tree, frames⟩ := place
  cases frames with
  | nil => cases behind
  | cons frame frames =>
      have inside := (labels_sublist_preorderAll frame.after).subset behind
      exact List.mem_flatMap.mpr ⟨frame, List.mem_cons_self, inside⟩

/-- The siblings before a place precede it. -/
theorem Place.mem_preceding_of_mem_precedingSiblings {place : Place α} {label : α}
    (before : label ∈ place.precedingSiblings)
    : label ∈ place.preceding := by
  obtain ⟨tree, frames⟩ := place
  cases frames with
  | nil => cases before
  | cons frame frames =>
      obtain ⟨sibling, member, rfl⟩ := List.mem_map.mp before
      have inside := (labels_sublist_preorderAll frame.before.reverse).subset
        (List.mem_map_of_mem (List.mem_reverse.mpr member))
      exact List.mem_flatMap.mpr ⟨frame, List.mem_reverse.mpr List.mem_cons_self, inside⟩

end HtmlQuery.Tree
