import Mathlib.Data.List.Perm.Subperm
import HtmlQuery.Proofs.Tree.Descent

/-! How two places of a tree stand to each other. Where the labels of the tree are distinct, one place is
reached from the other in some direction just if the other is reached from it in the opposite one.
-/

namespace HtmlQuery.Tree

universe u

variable {α : Type u} {tree : Tree α} {place other around : Place α}

/-- Of two elements of a row without repetition, the second one is behind the first one just if the
first one is in front of the second one.
-/
theorem mem_back_iff_mem_front {front back front' back' : List α} {first second : α}
    (distinct : (front ++ first :: back).Nodup)
    (same : front ++ first :: back = front' ++ second :: back')
    : second ∈ back ↔ first ∈ front' := by
  have distinct' : (front' ++ second :: back').Nodup := same ▸ distinct
  have noFirst : first ∉ front ++ back := (List.nodup_middle.mp distinct).notMem
  have noSecond : second ∉ front' ++ back' := (List.nodup_middle.mp distinct').notMem
  rw [List.mem_append, not_or] at noFirst noSecond
  rcases List.append_eq_append_iff.mp same with ⟨between, rfl, rest⟩ | ⟨between, rfl, rest⟩
  · rcases List.cons_eq_append_iff.mp rest with ⟨rfl, rest⟩ | ⟨inner, rfl, rfl⟩
    · obtain ⟨rfl, rfl⟩ := List.cons.inj rest
      exact iff_of_false noSecond.2 (by simpa using noFirst.1)
    · simp
  · rcases List.cons_eq_append_iff.mp rest with ⟨rfl, rest⟩ | ⟨inner, rfl, rfl⟩
    · obtain ⟨rfl, rfl⟩ := List.cons.inj rest
      exact iff_of_false noFirst.2 noSecond.1
    · refine iff_of_false (fun behind => noSecond.2 ?_) fun before => noFirst.1 ?_
      · exact List.mem_append_right _ (List.mem_cons_of_mem _ behind)
      · exact List.mem_append_left _ before

/-- Places of a tree are known by their labels. -/
theorem eq_of_label (distinct : tree.preorder.Nodup) (member : place ∈ tree.places)
    (member' : other ∈ tree.places) (same : place.label = other.label)
    : place = other := by
  rw [← labels_places] at distinct
  exact List.inj_on_of_nodup_map distinct member member' same

/-- The place around a place of a tree is one of the tree. -/
theorem mem_places_of_up? (member : place ∈ tree.places) (found : place.up? = some around)
    : around ∈ tree.places := by
  rcases up?_of_mem_places member with rfl | ⟨around', inside, found'⟩
  · cases found
  · exact Option.some.inj (found'.symm.trans found) ▸ inside

-----------------------------------------------------------------------------------------
-- Children and parents
-----------------------------------------------------------------------------------------

/-- Each of some siblings has its place, by induction on those before it. -/
theorem mem_placesAmong (frames : List (Frame α)) (parent : α) (sibling : Tree α)
    (after : List (Tree α))
    : (before front : List (Tree α)) →
      ⟨sibling, ⟨parent, front.reverse ++ before, after⟩ :: frames⟩
        ∈ placesAmong frames parent before (front ++ sibling :: after)
  | before, [] => by
      obtain ⟨label, trees⟩ := sibling
      rw [List.nil_append, placesAmong, placesWithin]
      exact List.mem_append_left _ List.mem_cons_self
  | before, first :: front => by
      have later := mem_placesAmong frames parent sibling after (first :: before) front
      rw [List.cons_append, placesAmong, List.reverse_cons, List.append_assoc,
        List.singleton_append]
      exact List.mem_append_right _ later

/-- A subtree below a place stands in a place of its own, which the first one is around. -/
theorem exists_place_of_mem_subtrees (member : place ∈ tree.places) {subtree : Tree α}
    (inside : subtree ∈ place.tree.children)
    : ∃ lower ∈ tree.places, lower.tree = subtree ∧ lower.up? = some place := by
  obtain ⟨⟨root, trees⟩, frames⟩ := place
  obtain ⟨front, after, rfl⟩ : ∃ front after, trees = front ++ subtree :: after :=
    List.append_of_mem inside
  refine ⟨⟨subtree, ⟨root, front.reverse ++ [], after⟩ :: frames⟩, ?_, rfl, ?_⟩
  · refine placesWithin_subset member ?_
    rw [placesWithin]
    exact List.mem_cons_of_mem _ (mem_placesAmong frames root subtree after [] front)
  · simp [Place.up?]

/-- A child of a place stands in a place of its own, which the first one is around. -/
theorem exists_place_of_mem_children (member : place ∈ tree.places) {label : α}
    (child : label ∈ place.children)
    : ∃ lower ∈ tree.places, lower.label = label ∧ lower.up? = some place := by
  obtain ⟨subtree, inside, rfl⟩ := List.mem_map.mp child
  obtain ⟨lower, among, rfl, up⟩ := exists_place_of_mem_subtrees member inside
  exact ⟨lower, among, rfl, up⟩

/-- A place has those children that it is around. -/
theorem mem_children_iff_up? (distinct : tree.preorder.Nodup) (member : place ∈ tree.places)
    (member' : other ∈ tree.places)
    : other.label ∈ place.children ↔ other.up? = some place := by
  constructor
  · intro child
    obtain ⟨lower, inside, same, found⟩ := exists_place_of_mem_children member child
    exact eq_of_label distinct inside member' same ▸ found
  · exact Place.label_mem_children_of_up?

/-- A place is a child of another one just if the other one is its parent. -/
theorem mem_children_iff_parent? (distinct : tree.preorder.Nodup) (member : place ∈ tree.places)
    (member' : other ∈ tree.places)
    : other.label ∈ place.children ↔ other.parent? = some place.label := by
  rw [mem_children_iff_up? distinct member member']
  refine ⟨Place.parent?_of_up?, fun parent => ?_⟩
  rcases up?_of_mem_places member' with rfl | ⟨around, inside, found⟩
  · cases parent
  · have same : around.label = place.label :=
      Option.some.inj ((Place.parent?_of_up? found).symm.trans parent)
    rw [found, eq_of_label distinct inside member same]

-----------------------------------------------------------------------------------------
-- Descendants and ancestors
-----------------------------------------------------------------------------------------

/-- What is above a place is also above those below it. -/
theorem Place.ancestors_inside (outer : List (Frame α)) (place : Place α)
    : (place.inside outer).ancestors = place.ancestors ++ outer.map Frame.parent := by
  rw [ancestors, inside, List.map_append]
  rfl

/-- A place that is below another one has it above. -/
theorem mem_ancestors_of_mem_descendants (distinct : tree.preorder.Nodup)
    (member : place ∈ tree.places) (member' : other ∈ tree.places)
    (below : other.label ∈ place.descendants)
    : place.label ∈ other.ancestors := by
  obtain ⟨lower, among, same, inside⟩ := exists_place_within_of_mem_descendants member below
  obtain rfl : lower.inside place.frames = other := eq_of_label distinct inside member' same
  have apart : place.label ≠ lower.label := by
    rw [preorder_of_mem_places member] at distinct
    have absent := (List.nodup_middle.mp distinct).notMem
    rintro top
    exact absent (by simp [top, show lower.label ∈ place.descendants from below])
  have last := getLast?_ancestors among
  rw [Place.ancestors_inside]
  apply List.mem_append_left
  rcases List.mem_cons.mp (List.mem_of_getLast? last) with top | above
  · exact (apart top).elim
  · exact above

/-- A place that has another one above is below it, by induction on the frames. -/
theorem mem_descendants_of_mem_ancestors (distinct : tree.preorder.Nodup)
    (member : place ∈ tree.places) (member' : other ∈ tree.places)
    (above : place.label ∈ other.ancestors)
    : other.label ∈ place.descendants := by
  induction depth : other.frames.length generalizing other with
  | zero => simp [Place.ancestors, List.length_eq_zero_iff.mp depth] at above
  | succ depth' ih =>
      rcases up?_of_mem_places member' with rfl | ⟨around, inside, found⟩
      · cases depth
      obtain ⟨frame, shape, -⟩ := Place.frames_of_up? found
      rw [shape, List.length_cons] at depth
      have child := Place.label_mem_children_of_up? found
      have direct : other.label ∈ around.descendants :=
        (labels_sublist_preorderAll _).subset child
      rw [Place.ancestors_of_up? found] at above
      rcases List.mem_cons.mp above with same | above
      · rw [eq_of_label distinct member inside same]
        exact direct
      · obtain ⟨lower, among, same, deeper⟩ :=
          exists_place_of_mem_descendants member (ih inside above (by omega))
        rw [eq_of_label distinct among inside same] at deeper
        exact deeper direct

/-- A place is below another one just if the other one is above it. -/
theorem mem_descendants_iff_mem_ancestors (distinct : tree.preorder.Nodup)
    (member : place ∈ tree.places) (member' : other ∈ tree.places)
    : other.label ∈ place.descendants ↔ place.label ∈ other.ancestors :=
  ⟨mem_ancestors_of_mem_descendants distinct member member',
    mem_descendants_of_mem_ancestors distinct member member'⟩

-----------------------------------------------------------------------------------------
-- Siblings
-----------------------------------------------------------------------------------------

/-- The children of the place around a place are those before it, itself and those behind it. -/
theorem Place.children_of_up? (found : place.up? = some around)
    : around.children
      = place.precedingSiblings.reverse ++ place.label :: place.followingSiblings := by
  obtain ⟨frame, shape, tree⟩ := frames_of_up? found
  rw [children, tree]
  simp [Tree.children, precedingSiblings, followingSiblings, shape, label]

/-- A place that has siblings has a place around it. -/
theorem Place.exists_up? {label : α}
    (sibling : label ∈ place.followingSiblings ∨ label ∈ place.precedingSiblings)
    : ∃ around, place.up? = some around := by
  obtain ⟨tree, - | ⟨frame, frames⟩⟩ := place
  · rcases sibling with sibling | sibling <;> cases sibling
  · exact ⟨_, rfl⟩

/-- A place is behind one of its siblings just if that one is before it. -/
theorem mem_followingSiblings_iff_mem_precedingSiblings (distinct : tree.preorder.Nodup)
    (member : place ∈ tree.places) (member' : other ∈ tree.places)
    : other.label ∈ place.followingSiblings ↔ place.label ∈ other.precedingSiblings := by
  have shared {around : Place α} (found : place.up? = some around)
      (found' : other.up? = some around)
      : other.label ∈ place.followingSiblings ↔ place.label ∈ other.precedingSiblings := by
    have once : around.children.Nodup :=
      distinct.sublist (children_sublist_preorder (mem_places_of_up? member found))
    have row := Place.children_of_up? found
    rw [row] at once
    rw [mem_back_iff_mem_front once (row.symm.trans (Place.children_of_up? found')),
      List.mem_reverse]
  constructor
  · intro behind
    obtain ⟨around, found⟩ := Place.exists_up? (.inl behind)
    refine (shared found ?_).mp behind
    rw [← mem_children_iff_up? distinct (mem_places_of_up? member found) member',
      Place.children_of_up? found]
    exact List.mem_append_right _ (List.mem_cons_of_mem _ behind)
  · intro before
    obtain ⟨around, found⟩ := Place.exists_up? (.inr before)
    refine (shared ?_ found).mpr before
    rw [← mem_children_iff_up? distinct (mem_places_of_up? member' found) member,
      Place.children_of_up? found]
    exact List.mem_append_left _ (List.mem_reverse.mpr before)

-----------------------------------------------------------------------------------------
-- Document order
-----------------------------------------------------------------------------------------

/-- A place follows another one just if the other one precedes it: of what is behind a place, some is
below it, and of what is before it, some is above it.
-/
theorem mem_following_iff_mem_preceding (distinct : tree.preorder.Nodup)
    (member : place ∈ tree.places) (member' : other ∈ tree.places)
    : other.label ∈ place.following ↔ place.label ∈ other.preceding := by
  classical
  have row := preorder_of_mem_places member
  have row' := preorder_of_mem_places member'
  have order := mem_back_iff_mem_front (row ▸ distinct) (row.symm.trans row')
  have kin := mem_descendants_iff_mem_ancestors distinct member member'
  have once : other.before.Nodup := by
    rw [row'] at distinct
    exact (List.nodup_append'.mp distinct).1
  have apart : other.label ∈ place.following → other.label ∉ place.descendants := by
    intro behind below
    rw [row, List.nodup_append', List.nodup_cons, List.nodup_append'] at distinct
    exact distinct.2.1.2.2.2 below behind
  rw [← Place.filter_not_mem_ancestors once, List.mem_filter, ← order, decide_eq_true_eq, ← kin,
    List.mem_append]
  constructor
  · exact fun behind => ⟨.inr behind, apart behind⟩
  · rintro ⟨below | behind, notBelow⟩
    · exact (notBelow below).elim
    · exact behind

-----------------------------------------------------------------------------------------
-- Each direction leads to labels of the tree, to none more often than it occurs there
-----------------------------------------------------------------------------------------

namespace Place

theorem descendants_subperm (member : place ∈ tree.places)
    : place.descendants.Subperm tree.preorder := by
  rw [preorder_of_mem_places member]
  have behind := (List.sublist_append_left place.descendants place.following).cons place.label
  exact (behind.trans (List.sublist_append_right _ _)).subperm

theorem following_subperm (member : place ∈ tree.places)
    : place.following.Subperm tree.preorder := by
  rw [preorder_of_mem_places member]
  have behind := (List.sublist_append_right place.descendants place.following).cons place.label
  exact (behind.trans (List.sublist_append_right _ _)).subperm

theorem before_sublist (member : place ∈ tree.places) : place.before.Sublist tree.preorder := by
  rw [preorder_of_mem_places member]
  exact List.sublist_append_left _ _

theorem ancestors_subperm (distinct : tree.preorder.Nodup) (member : place ∈ tree.places)
    : place.ancestors.Subperm tree.preorder := by
  classical
  have above := filter_mem_ancestors (distinct.sublist (before_sublist member))
  refine (List.reverse_perm place.ancestors).symm.subperm.trans ?_
  rw [← above]
  exact (List.filter_sublist.trans (before_sublist member)).subperm

theorem preceding_subperm (distinct : tree.preorder.Nodup) (member : place ∈ tree.places)
    : place.preceding.Subperm tree.preorder := by
  classical
  rw [← filter_not_mem_ancestors (distinct.sublist (before_sublist member))]
  exact (List.filter_sublist.trans (before_sublist member)).subperm

theorem children_subperm (member : place ∈ tree.places)
    : place.children.Subperm tree.preorder :=
  (children_sublist_preorder member).subperm

theorem parent?_subperm (distinct : tree.preorder.Nodup) (member : place ∈ tree.places)
    : place.parent?.toList.Subperm tree.preorder := by
  refine List.Subperm.trans (List.Sublist.subperm ?_) (ancestors_subperm distinct member)
  obtain ⟨tree, - | ⟨frame, frames⟩⟩ := place
  · exact List.nil_sublist _
  · exact (List.nil_sublist _).cons_cons _

theorem followingSiblings_subperm (member : place ∈ tree.places)
    : place.followingSiblings.Subperm tree.preorder := by
  refine List.Subperm.trans (List.Sublist.subperm ?_) (following_subperm member)
  obtain ⟨tree, - | ⟨frame, frames⟩⟩ := place
  · exact List.nil_sublist _
  · exact (labels_sublist_preorderAll frame.after).trans (List.sublist_append_left _ _)

theorem precedingSiblings_subperm (distinct : tree.preorder.Nodup) (member : place ∈ tree.places)
    : place.precedingSiblings.Subperm tree.preorder := by
  refine (List.reverse_perm place.precedingSiblings).symm.subperm.trans
    (List.Subperm.trans (List.Sublist.subperm ?_) (preceding_subperm distinct member))
  obtain ⟨tree, - | ⟨frame, frames⟩⟩ := place
  · exact List.nil_sublist _
  · rw [preceding, List.reverse_cons, List.flatMap_append, List.flatMap_singleton,
      precedingSiblings, ← List.map_reverse]
    exact (labels_sublist_preorderAll frame.before.reverse).trans (List.sublist_append_right _ _)

end Place

end HtmlQuery.Tree
