import Mathlib.Data.List.Nodup
import HtmlQuery.Tree.Axes

/-! Document order seen from a place. What is before the place, the subtree at the place and what
follows it make up the whole tree, and what is before it is either above it or precedes it.
-/

namespace HtmlQuery.Tree

universe u

variable {α : Type u}

/-- In document order, the root is in front of everything below it. -/
theorem preorder_eq (tree : Tree α) : tree.preorder = tree.label :: preorderAll tree.children := by
  obtain ⟨label, trees⟩ := tree
  rw [preorder]
  rfl

theorem preorderAll_append (left right : List (Tree α))
    : preorderAll (left ++ right) = preorderAll left ++ preorderAll right := by
  induction left with
  | nil => rfl
  | cons tree left ih => simp only [List.cons_append, preorderAll, ih, List.append_assoc]

theorem mem_preorderAll {label : α} {trees : List (Tree α)}
    : label ∈ preorderAll trees ↔ ∃ tree ∈ trees, label ∈ preorder tree := by
  induction trees with
  | nil => simp [preorderAll]
  | cons tree trees ih => simp [preorderAll, ih]

/-- The labels of one of several trees are among all labels, in the same order. -/
theorem sublist_preorderAll {tree : Tree α} {trees : List (Tree α)} (among : tree ∈ trees)
    : tree.preorder.Sublist (preorderAll trees) := by
  obtain ⟨front, back, rfl⟩ := List.append_of_mem among
  rw [preorderAll_append, preorderAll]
  exact (List.sublist_append_left _ _).trans (List.sublist_append_right _ _)

-----------------------------------------------------------------------------------------
-- Places and labels
-----------------------------------------------------------------------------------------

mutual

/-- The places of a subtree carry its labels in document order. -/
theorem labels_placesWithin (frames : List (Frame α))
    : (tree : Tree α) → (placesWithin frames tree).map Place.label = preorder tree
  | .node label trees => by
      rw [placesWithin, List.map_cons, labels_placesAmong frames label [] trees, preorder]
      rfl

/-- The places of siblings carry their labels in document order. -/
theorem labels_placesAmong (frames : List (Frame α)) (parent : α) (before : List (Tree α))
    : (trees : List (Tree α)) →
      (placesAmong frames parent before trees).map Place.label = preorderAll trees
  | [] => rfl
  | tree :: after => by
      rw [placesAmong, List.map_append, labels_placesWithin _ tree,
        labels_placesAmong frames parent (tree :: before) after, preorderAll]

end

/-- The places of a tree carry its labels in document order. -/
theorem labels_places (tree : Tree α) : tree.places.map Place.label = tree.preorder :=
  labels_placesWithin [] tree

/-- In trees whose labels have different names, each place is the one that is found by its name, by
induction on the trees.
-/
theorem findSome?_of_mem_places {β : Type u} [BEq β] [LawfulBEq β] {name : α → β}
    {trees : List (Tree α)} (distinct : ((preorderAll trees).map name).Nodup) {tree : Tree α}
    (among : tree ∈ trees) {place : Place α} (member : place ∈ tree.places)
    : trees.findSome? (fun tree => tree.find? fun label => name label == name place.label)
      = some place := by
  induction trees with
  | nil => cases among
  | cons first rest ih =>
      rw [preorderAll, List.map_append, List.nodup_append', ← labels_places, List.map_map]
        at distinct
      obtain ⟨own, others, apart⟩ := distinct
      rw [List.findSome?_cons]
      cases search : first.find? fun label => name label == name place.label with
      | none =>
          rcases List.mem_cons.mp among with rfl | among
          · have absent := List.find?_eq_none.mp search place member
            exact (absent (beq_self_eq_true _)).elim
          · exact ih others among
      | some found =>
          have inside : found ∈ first.places := List.mem_of_find?_eq_some search
          have same : name found.label = name place.label := by
            simpa [Place.label] using List.find?_some search
          rcases List.mem_cons.mp among with rfl | among
          · exact congrArg some (List.inj_on_of_nodup_map own inside member same)
          · refine (apart (List.mem_map_of_mem inside) ?_).elim
            rw [Function.comp_apply, same]
            refine List.mem_map_of_mem (mem_preorderAll.mpr ⟨tree, among, ?_⟩)
            rw [← labels_places]
            exact List.mem_map_of_mem member

namespace Place

/-- Everything before the place: from the outermost frame on, the label above the place and the
siblings that precede it there.
-/
def before (place : Place α) : List α :=
  place.frames.reverse.flatMap fun frame => frame.parent :: preorderAll frame.before.reverse

/-- The labels of the whole tree in document order, put together around the place. -/
def order (place : Place α) : List α :=
  place.before ++ place.tree.preorder ++ place.following

/-- A child and its frame stand for the subtree they were taken from. -/
theorem order_child (frames : List (Frame α)) (parent : α) (before after : List (Tree α))
    (tree : Tree α)
    : order ⟨tree, ⟨parent, before, after⟩ :: frames⟩
      = order ⟨.node parent (before.reverse ++ tree :: after), frames⟩ := by
  simp only [order, Place.before, following, List.reverse_cons, List.flatMap_append,
    List.flatMap_cons, List.flatMap_nil, List.append_nil, preorder, preorderAll_append, preorderAll,
    List.append_assoc, List.cons_append]

end Place

-----------------------------------------------------------------------------------------
-- The order around a place
-----------------------------------------------------------------------------------------

mutual

/-- All places of a subtree put the same labels together. -/
theorem order_of_mem_placesWithin {frames : List (Frame α)} {place : Place α}
    : {tree : Tree α} → place ∈ placesWithin frames tree →
      place.order = (Place.mk tree frames).order
  | .node label trees, member => by
      rw [placesWithin] at member
      rcases List.mem_cons.mp member with rfl | member
      · rfl
      · have whole := order_of_mem_placesAmong member
        exact whole

/-- All places of some siblings put the labels of all siblings together. -/
theorem order_of_mem_placesAmong {frames : List (Frame α)} {parent : α} {place : Place α}
    : {before trees : List (Tree α)} → place ∈ placesAmong frames parent before trees →
      place.order = (Place.mk (.node parent (before.reverse ++ trees)) frames).order
  | _, [], member => by cases member
  | before, tree :: after, member => by
      rw [placesAmong] at member
      rcases List.mem_append.mp member with member | member
      · rw [order_of_mem_placesWithin member, Place.order_child]
      · rw [order_of_mem_placesAmong member, List.reverse_cons, List.append_assoc,
          List.singleton_append]

end

/-- Document order, taken apart at one of the places of a tree. -/
theorem preorder_of_mem_places {tree : Tree α} {place : Place α} (member : place ∈ tree.places)
    : tree.preorder = place.before ++ place.label :: (place.descendants ++ place.following) := by
  have whole : place.order = tree.preorder := by
    rw [order_of_mem_placesWithin member]
    simp [Place.order, Place.before, Place.following]
  rw [← whole, Place.order]
  obtain ⟨⟨label, trees⟩, frames⟩ := place
  simp only [preorder, Place.label, Tree.label, Place.descendants, Tree.children,
    List.append_assoc, List.cons_append]

-----------------------------------------------------------------------------------------
-- Ancestors and what precedes a place
-----------------------------------------------------------------------------------------

section

variable {β : Type u} {head : β → α} {body : β → List α} {items : List β}

/-- In rows without repetition, no element of a body is the head of any row. -/
theorem not_head_of_mem_body
    (distinct : (items.flatMap fun item => head item :: body item).Nodup)
    {item : β} (member : item ∈ items) {label : α} (inside : label ∈ body item)
    : label ∉ items.map head := by
  induction items with
  | nil => cases member
  | cons first rest ih =>
      rw [List.flatMap_cons, List.nodup_append'] at distinct
      obtain ⟨row, others, apart⟩ := distinct
      intro isHead
      rw [List.map_cons] at isHead
      rcases List.mem_cons.mp member with rfl | member
      · rcases List.mem_cons.mp isHead with rfl | isHead
        · exact (List.nodup_cons.mp row).1 inside
        · obtain ⟨other, within, rfl⟩ := List.mem_map.mp isHead
          refine apart (List.mem_cons_of_mem _ inside) ?_
          exact List.mem_flatMap.mpr ⟨other, within, List.mem_cons_self⟩
      · rcases List.mem_cons.mp isHead with rfl | isHead
        · refine apart List.mem_cons_self ?_
          exact List.mem_flatMap.mpr ⟨item, member, List.mem_cons_of_mem _ inside⟩
        · exact ih others member isHead

/-- A test that tells the heads from the bodies keeps the heads. -/
theorem filter_heads {isHead : α → Bool} (heads : ∀ item ∈ items, isHead (head item) = true)
    (bodies : ∀ item ∈ items, ∀ label ∈ body item, isHead label = false)
    : (items.flatMap fun item => head item :: body item).filter isHead = items.map head := by
  induction items with
  | nil => rfl
  | cons first rest ih =>
      have others := ih (fun item member => heads item (List.mem_cons_of_mem _ member))
        fun item member => bodies item (List.mem_cons_of_mem _ member)
      have own : (body first).filter isHead = [] := by
        rw [List.filter_eq_nil_iff]
        intro label member
        simp [bodies first List.mem_cons_self label member]
      rw [List.flatMap_cons, List.filter_append,
        List.filter_cons_of_pos (heads first List.mem_cons_self), own, others]
      rfl

/-- A test that tells the bodies from the heads keeps the bodies. -/
theorem filter_bodies {isBody : α → Bool} (heads : ∀ item ∈ items, isBody (head item) = false)
    (bodies : ∀ item ∈ items, ∀ label ∈ body item, isBody label = true)
    : (items.flatMap fun item => head item :: body item).filter isBody = items.flatMap body := by
  induction items with
  | nil => rfl
  | cons first rest ih =>
      have others := ih (fun item member => heads item (List.mem_cons_of_mem _ member))
        fun item member => bodies item (List.mem_cons_of_mem _ member)
      have own : (body first).filter isBody = body first :=
        List.filter_eq_self.mpr (bodies first List.mem_cons_self)
      rw [List.flatMap_cons, List.filter_append,
        List.filter_cons_of_neg (by simp [heads first List.mem_cons_self]), own, others,
        List.flatMap_cons]

end

namespace Place

variable [DecidableEq α]

/-- Of what is before a place, the labels above it are its ancestors. -/
theorem filter_mem_ancestors {place : Place α} (distinct : place.before.Nodup)
    : place.before.filter (· ∈ place.ancestors) = place.ancestors.reverse := by
  rw [ancestors, ← List.map_reverse]
  refine filter_heads (fun frame member => ?_) fun frame member label inside => ?_
  · rw [decide_eq_true_eq]
    exact List.mem_map_of_mem (List.mem_reverse.mp member)
  · have other := not_head_of_mem_body distinct member inside
    rw [List.map_reverse, List.mem_reverse] at other
    simpa using other

/-- Of what is before a place, the labels not above it precede it. -/
theorem filter_not_mem_ancestors {place : Place α} (distinct : place.before.Nodup)
    : place.before.filter (· ∉ place.ancestors) = place.preceding := by
  refine filter_bodies (fun frame member => ?_) fun frame member label inside => ?_
  · rw [decide_eq_false_iff_not, not_not]
    exact List.mem_map_of_mem (List.mem_reverse.mp member)
  · have other := not_head_of_mem_body distinct member inside
    rw [List.map_reverse, List.mem_reverse] at other
    simpa [ancestors] using other

end Place

end HtmlQuery.Tree
