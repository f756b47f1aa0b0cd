import HtmlQuery.Proofs.Document.Attachment
import HtmlQuery.Proofs.Tree.Kinship

/-! Walks from node to node. All directions come down to the children and the parent of each node: the
parent's children are scanned for siblings, and the way up leads over the levels at which siblings
precede or follow a node.
-/

namespace HtmlQuery

-----------------------------------------------------------------------------------------
-- Walks between places
-----------------------------------------------------------------------------------------

namespace Tree

universe u

variable {α : Type u} {tree : Tree α} {place around : Place α}

/-- What is behind a place is the subtrees behind it and what is behind the place around. -/
theorem Place.following_of_up? (found : place.up? = some around)
    : ∃ after, after ⊆ around.tree.children
        ∧ place.followingSiblings = after.map Tree.label
        ∧ place.following = preorderAll after ++ around.following := by
  obtain ⟨frame, shape, above⟩ := frames_of_up? found
  refine ⟨frame.after, ?_, ?_, ?_⟩
  · rw [above]
    exact fun sibling inside => List.mem_append_right _ (List.mem_cons_of_mem _ inside)
  · rw [followingSiblings, shape]
  · rw [following, shape]
    rfl

/-- What is before a place is what is before the place around and the subtrees before it. -/
theorem Place.preceding_of_up? (found : place.up? = some around)
    : ∃ before, before ⊆ around.tree.children
        ∧ place.precedingSiblings.reverse = before.map Tree.label
        ∧ place.preceding = around.preceding ++ preorderAll before := by
  obtain ⟨frame, shape, above⟩ := frames_of_up? found
  refine ⟨frame.before.reverse, ?_, ?_, ?_⟩
  · rw [above]
    exact fun sibling inside => List.mem_append_left _ inside
  · rw [precedingSiblings, shape, List.map_reverse]
  · rw [preceding, shape, List.reverse_cons, List.flatMap_append, List.flatMap_singleton]
    rfl

/-- Where each place's descendants are known by its label, some subtrees below a place are listed by
their labels, by induction on the subtrees.
-/
theorem preorderAll_of_subset {below : α → List α}
    (known : ∀ lower ∈ tree.places, below lower.label = lower.descendants)
    (member : place ∈ tree.places) {trees : List (Tree α)} (inside : trees ⊆ place.tree.children)
    : preorderAll trees = (trees.map Tree.label).flatMap fun label => label :: below label := by
  induction trees with
  | nil => rw [preorderAll, List.map_nil, List.flatMap_nil]
  | cons subtree rest ih =>
      obtain ⟨first, others⟩ := List.cons_subset.mp inside
      obtain ⟨lower, among, rfl, -⟩ := exists_place_of_mem_subtrees member first
      have own : below lower.tree.label = preorderAll lower.tree.children := known lower among
      rw [preorderAll, List.map_cons, List.flatMap_cons, ih others, own, preorder_eq]

end Tree

-----------------------------------------------------------------------------------------
-- Parents
-----------------------------------------------------------------------------------------

namespace Document

variable {document : Document} {ref parent : NodeRef}

/-- The names on the way up from a node, its own first. -/
def wayUp (document : Document) (ref : NodeRef) : List NodeRef :=
  ref :: (document.along Tree.Place.ancestors ref).map Node.ref

/-- A node and all that is below it, in document order. -/
def withBelow (document : Document) (node : Node) : List Node :=
  node :: document.along Tree.Place.descendants node.ref

/-- The parent's place is the one around. -/
theorem exists_place?_of_parent? (sound : document.Sound) (above : document.parent? ref = some parent)
    : ∃ tree ∈ document.tree :: document.detachedTrees, ∃ place around,
        around ∈ tree.places
        ∧ document.place? ref = some place
        ∧ document.place? parent = some around
        ∧ place.up? = some around := by
  obtain ⟨place, found, labelled⟩ := Option.bind_eq_some_iff.mp above
  obtain ⟨-, tree, among, within⟩ := exists_tree_of_place? found
  rcases Tree.up?_of_mem_places within with rfl | ⟨around, inside, up⟩
  · cases labelled
  · rw [Tree.Place.parent?_of_up? up, Option.map_some] at labelled
    obtain rfl := Option.some.inj labelled
    exact ⟨tree, among, place, around, inside, found, place?_of_mem_trees sound among inside, up⟩

/-- Without a parent, there is nothing to be found above or beside a node. -/
theorem along_of_parent?_eq_none {axis : Tree.Place Node → List Node}
    (nothing : ∀ tree, axis ⟨tree, []⟩ = []) (top : document.parent? ref = none)
    : document.along axis ref = [] := by
  cases found : document.place? ref with
  | none => simp [along, found]
  | some place =>
      obtain ⟨tree, frames⟩ := place
      rw [parent?, found, Option.bind_some, Tree.Place.parent?] at top
      obtain rfl : frames = [] := by simpa using top
      rw [along_of_place? found, nothing]

-----------------------------------------------------------------------------------------
-- The way up
-----------------------------------------------------------------------------------------

/-- The way up begins with the parent. -/
theorem along_ancestors_of_parent? (sound : document.Sound)
    (above : document.parent? ref = some parent)
    : ∃ node,
        document.node? parent = some node
        ∧ document.along Tree.Place.ancestors ref
          = node :: document.along Tree.Place.ancestors parent := by
  obtain ⟨-, -, place, around, -, found, found', up⟩ := exists_place?_of_parent? sound above
  refine ⟨around.label, node?_of_place? sound found', ?_⟩
  rw [along_of_place? found, along_of_place? found', Tree.Place.ancestors_of_up? up]

theorem wayUp_of_parent? (sound : document.Sound) (above : document.parent? ref = some parent)
    : document.wayUp ref = ref :: document.wayUp parent := by
  obtain ⟨node, known, whole⟩ := along_ancestors_of_parent? sound above
  rw [wayUp, whole, List.map_cons, ref_of_node? known]
  rfl

theorem wayUp_of_parent?_eq_none (top : document.parent? ref = none)
    : document.wayUp ref = [ref] := by
  rw [wayUp, along_of_parent?_eq_none (fun _ => rfl) top]
  rfl

/-- Induction on the way up: what holds of all parents' children if it holds of the parents, and of
everything without a parent, holds everywhere.
-/
theorem parent?_induction (sound : document.Sound) {motive : NodeRef → Prop}
    (top : ∀ ref, document.parent? ref = none → motive ref)
    (step : ∀ ref parent, document.parent? ref = some parent → motive parent → motive ref)
    (ref : NodeRef)
    : motive ref := by
  induction height : (document.wayUp ref).length generalizing ref with
  | zero => cases height
  | succ height' ih =>
      cases above : document.parent? ref with
      | none => exact top ref above
      | some parent =>
          rw [wayUp_of_parent? sound above, List.length_cons] at height
          exact step ref parent above (ih parent (by omega))

/-- The ancestors of a node are its parent, that one's parent and so on, up to one that has none. -/
theorem wayUp_climbs (reachable : document.Reachable) (ref : NodeRef)
    : (document.wayUp ref).IsChain (fun lower upper => document.parent? lower = some upper)
      ∧ (document.wayUp ref).getLast?.bind document.parent? = none := by
  have sound := reachable.sound
  induction ref using parent?_induction sound with
  | top ref top =>
      rw [wayUp_of_parent?_eq_none top]
      exact ⟨.singleton ref, top⟩
  | step ref parent above ih =>
      rw [wayUp_of_parent? sound above]
      rw [wayUp] at ih ⊢
      rw [List.getLast?_cons_cons]
      exact ⟨.cons_cons above ih.1, ih.2⟩

-----------------------------------------------------------------------------------------
-- Siblings
-----------------------------------------------------------------------------------------

/-- The siblings of a node are what a scan of its parent's children finds behind the node and, from
there backwards, in front of it. The node is one of the children.
-/
theorem siblings_scanned (reachable : document.Reachable)
    (above : document.parent? ref = some parent)
    : ref ∈ (document.along Tree.Place.children parent).map Node.ref
      ∧ document.along Tree.Place.followingSiblings ref
        = ((document.along Tree.Place.children parent).dropWhile (·.ref != ref)).tail
      ∧ document.along Tree.Place.precedingSiblings ref
        = ((document.along Tree.Place.children parent).takeWhile (·.ref != ref)).reverse := by
  have sound := reachable.sound
  obtain ⟨tree, among, place, around, inside, found, found', up⟩ :=
    exists_place?_of_parent? sound above
  obtain ⟨rfl, -⟩ := exists_tree_of_place? found
  have row := Tree.Place.children_of_up? up
  have once : (around.children.map Node.ref).Nodup :=
    (nodup_refs_of_mem sound among).sublist ((Tree.children_sublist_preorder inside).map Node.ref)
  rw [row, List.map_append, List.map_cons, List.nodup_middle, List.nodup_cons, List.mem_append,
    not_or] at once
  have front : ∀ node ∈ place.precedingSiblings.reverse, (node.ref != place.label.ref) = true := by
    intro node member
    rw [bne_iff_ne]
    exact fun same => once.1.1 (same ▸ List.mem_map_of_mem member)
  simp only [along_of_place? found, along_of_place? found', row]
  refine ⟨by simp, ?_, ?_⟩
  · rw [List.dropWhile_append_of_pos front, List.dropWhile_cons_of_neg (by simp), List.tail_cons]
  · rw [List.takeWhile_append_of_pos front, List.takeWhile_cons_of_neg (by simp), List.append_nil,
      List.reverse_reverse]

/-- Without a parent there are no siblings. -/
theorem siblings_of_parent?_eq_none (top : document.parent? ref = none)
    : document.along Tree.Place.followingSiblings ref = []
      ∧ document.along Tree.Place.precedingSiblings ref = [] :=
  ⟨along_of_parent?_eq_none (fun _ => rfl) top, along_of_parent?_eq_none (fun _ => rfl) top⟩

-----------------------------------------------------------------------------------------
-- Down, forwards and backwards
-----------------------------------------------------------------------------------------

/-- Some subtrees below a place of the tree, or of a part taken out, are listed by their names. -/
theorem preorderAll_eq_withBelow (sound : document.Sound) {tree : Tree Node}
    (among : tree ∈ document.tree :: document.detachedTrees) {place : Tree.Place Node}
    (member : place ∈ tree.places) {trees : List (Tree Node)} (inside : trees ⊆ place.tree.children)
    : Tree.preorderAll trees = (trees.map Tree.label).flatMap document.withBelow :=
  Tree.preorderAll_of_subset
    (fun _ within => along_of_place? (place?_of_mem_trees sound among within) _) member inside

/-- Below a node are its children, each with what is below it. -/
theorem along_descendants (reachable : document.Reachable) (ref : NodeRef)
    : document.along Tree.Place.descendants ref
      = (document.along Tree.Place.children ref).flatMap document.withBelow := by
  cases found : document.place? ref with
  | none => simp [along, found]
  | some place =>
      obtain ⟨-, tree, among, within⟩ := exists_tree_of_place? found
      rw [along_of_place? found, along_of_place? found]
      exact preorderAll_eq_withBelow reachable.sound among within (List.Subset.refl _)

/-- A node is followed by the siblings behind it, with what is below them, and by what follows its
parent.
-/
theorem along_following_of_parent? (sound : document.Sound)
    (above : document.parent? ref = some parent)
    : document.along Tree.Place.following ref
      = (document.along Tree.Place.followingSiblings ref).flatMap document.withBelow
        ++ document.along Tree.Place.following parent := by
  obtain ⟨tree, among, place, around, inside, found, found', up⟩ :=
    exists_place?_of_parent? sound above
  obtain ⟨after, among', siblings, whole⟩ := Tree.Place.following_of_up? up
  rw [along_of_place? found, along_of_place? found, along_of_place? found', whole, siblings,
    preorderAll_eq_withBelow sound among inside among']

/-- A node is preceded by what precedes its parent and by the siblings before it, with what is below
them.
-/
theorem along_preceding_of_parent? (sound : document.Sound)
    (above : document.parent? ref = some parent)
    : document.along Tree.Place.preceding ref
      = document.along Tree.Place.preceding parent
        ++ (document.along Tree.Place.precedingSiblings ref).reverse.flatMap document.withBelow := by
  obtain ⟨tree, among, place, around, inside, found, found', up⟩ :=
    exists_place?_of_parent? sound above
  obtain ⟨before, among', siblings, whole⟩ := Tree.Place.preceding_of_up? up
  rw [along_of_place? found, along_of_place? found, along_of_place? found', whole, siblings,
    preorderAll_eq_withBelow sound among inside among']

/-- What follows a node: on each level of the way up, the siblings behind with what is below them. -/
theorem along_following (reachable : document.Reachable) (ref : NodeRef)
    : document.along Tree.Place.following ref
      = (document.wayUp ref).flatMap fun level =>
        (document.along Tree.Place.followingSiblings level).flatMap document.withBelow := by
  have sound := reachable.sound
  induction ref using parent?_induction sound with
  | top ref top =>
      rw [wayUp_of_parent?_eq_none top, List.flatMap_singleton, (siblings_of_parent?_eq_none top).1,
        along_of_parent?_eq_none (fun _ => rfl) top, List.flatMap_nil]
  | step ref parent above ih =>
      rw [wayUp_of_parent? sound above, List.flatMap_cons, ← ih,
        along_following_of_parent? sound above]

/-- What precedes a node: from the uppermost level of the way up downwards, the siblings before with
what is below them.
-/
theorem along_preceding (reachable : document.Reachable) (ref : NodeRef)
    : document.along Tree.Place.preceding ref
      = (document.wayUp ref).reverse.flatMap fun level =>
        (document.along Tree.Place.precedingSiblings level).reverse.flatMap document.withBelow := by
  have sound := reachable.sound
  induction ref using parent?_induction sound with
  | top ref top =>
      rw [wayUp_of_parent?_eq_none top, List.reverse_singleton, List.flatMap_singleton,
        (siblings_of_parent?_eq_none top).2, along_of_parent?_eq_none (fun _ => rfl) top,
        List.reverse_nil, List.flatMap_nil]
  | step ref parent above ih =>
      rw [wayUp_of_parent? sound above, List.reverse_cons, List.flatMap_append, ← ih,
        List.flatMap_singleton, along_preceding_of_parent? sound above]

end Document

end HtmlQuery
