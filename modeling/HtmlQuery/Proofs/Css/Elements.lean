import HtmlQuery.Proofs.Document.RemovedNodes
import HtmlQuery.Proofs.Document.Subtrees
import HtmlQuery.Proofs.Document.Traversal

/-! The elements that combinators lead to. Selectors are matched on branches, where the holder of a
fragment's nodes is an element among others and no branch stands for a complete document; the names of
nodes lead to the same elements in the same order.
-/

namespace HtmlQuery

-----------------------------------------------------------------------------------------
-- Elements of branches
-----------------------------------------------------------------------------------------

namespace Branch

/-- The element that a branch brings; comments and instructions bring none. -/
def element? (branch : Branch) : Option Node :=
  match branch.kind with
  | .element tag attributes => some (.element branch.id tag attributes)
  | _ => none

theorem element?_of_kind {branch : Branch} {tag : String} {attributes : List Attribute}
    (kind : branch.kind = .element tag attributes)
    : branch.element? = some (.element branch.id tag attributes) := by
  rw [element?, kind]

theorem eq_of_element? {branch : Branch} {node : Node} (own : branch.element? = some node)
    : ∃ tag attributes, node = .element branch.id tag attributes := by
  rw [element?] at own
  split at own
  · cases own
    exact ⟨_, _, rfl⟩
  · cases own

theorem element?_of_other {branch : Branch} (other : branch.kind.isElement = false)
    : branch.element? = none := by
  rw [element?]
  cases kind : branch.kind <;> simp [kind, Kind.isElement] at other ⊢

theorem elementsOf_cons_element (id : Nat) (tag : String) (attributes : List Attribute)
    (nodes : List Node)
    : Css.elementsOf (.element id tag attributes :: nodes)
      = .element id tag attributes :: Css.elementsOf nodes :=
  List.filter_cons_of_pos rfl

/-- At the root of a slot's tree stands a text. -/
theorem elementsOf_slot (slot : Slot) (content : String)
    : Css.elementsOf ((slot.trees content).map Tree.label) = [] := by
  rw [Slot.trees]
  split <;> rfl

/-- The elements of some siblings and of all below them, by induction on the siblings. -/
theorem elementsOf_order {branches : List Branch}
    (plain : ∀ branch ∈ allAmong branches, branch.Plain)
    : Css.elementsOf (order branches) = (allAmong branches).filterMap element? := by
  induction branches using allAmong.induct with
  | case1 =>
      rw [order_nil, allAmong]
      rfl
  | case2 id kind lead children tail rest inner others =>
      have own := plain (mk id kind lead children tail) (mem_allAmong_cons.mpr (.inl rfl))
      have below := inner fun branch member =>
        plain branch (mem_allAmong_cons.mpr (.inr (.inl member)))
      have behind := others fun branch member =>
        plain branch (mem_allAmong_cons.mpr (.inr (.inr member)))
      rw [allAmong, List.filterMap_cons, List.filterMap_append, ← below, ← behind]
      cases kind with
      | element tag attributes =>
          rw [order_element, element?_of_kind rfl, elementsOf_cons_element]
          simp only [Css.elementsOf_append, elementsOf_trees, List.nil_append, Branch.id]
      | comment | instruction =>
          obtain rfl : children = [] := (own rfl).2
          rw [order_other id rfl, element?_of_other rfl, order_nil]
          simp only [Css.elementsOf_append, elementsOf_trees, List.nil_append]
          rfl

/-- The elements at the roots of the trees that some siblings bring, by induction on the siblings. -/
theorem elementsOf_labels
    : (branches : List Branch) →
      Css.elementsOf ((nodesAmong branches).map Tree.label) = branches.filterMap element?
  | [] => by
      rw [nodesAmong]
      rfl
  | mk id kind lead children tail :: rest => by
      have behind : Css.elementsOf ((Slot.trees (.tail id) tail ++ nodesAmong rest).map Tree.label)
          = rest.filterMap element? := by
        rw [List.map_append, Css.elementsOf_append, elementsOf_slot, elementsOf_labels rest,
          List.nil_append]
      cases kind with
      | element tag attributes =>
          rw [nodesAmong, List.filterMap_cons, element?_of_kind rfl, ← behind, List.map_cons,
            Tree.label, elementsOf_cons_element]
          rfl
      | comment | instruction =>
          rw [List.filterMap_cons, element?_of_other rfl, ← behind]
          simp only [nodesAmong]

end Branch

-----------------------------------------------------------------------------------------
-- Combinators
-----------------------------------------------------------------------------------------

namespace Document

variable {document : Document} {branch : Branch}

/-- The name of the node that a branch stands for, which is the document for the holder of a fragment's
nodes.
-/
def standsFor (document : Document) (branch : Branch) : NodeRef :=
  if document.isFragment && branch.id == document.top.id then .document else .element branch.id

/-- At the place of a branch's node stand the nodes below the branch. -/
theorem exists_place?_standsFor (sound : document.Sound)
    (member : branch ∈ Branch.allAmong document.branches) (element : branch.kind.isElement = true)
    : ∃ place,
        document.place? (document.standsFor branch) = some place
        ∧ place.tree.children = branch.nodesBelow := by
  rw [standsFor]
  split
  · rename_i holder
    rw [Bool.and_eq_true, beq_iff_eq] at holder
    have top : document.top ∈ Branch.allAmong document.branches :=
      Branch.mem_allAmong_cons.mpr (.inl rfl)
    obtain rfl := List.inj_on_of_nodup_map sound.distinct member top holder.2
    refine ⟨⟨document.tree, []⟩, place?_document document, ?_⟩
    rw [tree, Tree.children, if_pos holder.1]
  · rename_i other
    have known := isSome_node?_element ((Branch.findAmong?_eq_some sound.distinct).mpr member)
    refine exists_place?_nodesBelow sound member ⟨known.trans element, fun fragment same => other ?_⟩
    rw [fragment, NodeRef.element.inj same, beq_self_eq_true]
    rfl

/-- Below an element, or below the holder of a fragment's nodes, are the elements of the branches
there.
-/
theorem elements_descendant (reachable : document.Reachable)
    (member : branch ∈ Branch.allAmong document.branches) (element : branch.kind.isElement = true)
    : Css.Combinator.descendant.elements document (document.standsFor branch)
      = (Branch.allAmong branch.children).filterMap Branch.element? := by
  have sound := reachable.sound
  obtain ⟨place, found, below⟩ := exists_place?_standsFor sound member element
  have plain : ∀ lower ∈ Branch.allAmong branch.children, lower.Plain := fun lower inside =>
    sound.plain lower (Branch.mem_allAmong_of_below inside _ member)
  rw [Css.Combinator.elements, along_of_place? found, Tree.Place.descendants, below,
    Branch.nodesBelow, Tree.preorderAll_append, Css.elementsOf_append, elementsOf_trees,
    List.nil_append]
  exact Branch.elementsOf_order plain

/-- A complete document leads to its root and to the elements below it. -/
theorem elements_document (reachable : document.Reachable) (complete : document.isFragment = false)
    : Css.Combinator.descendant.elements document .document
      = (Branch.allAmong [document.top]).filterMap Branch.element? := by
  have plain : ∀ branch ∈ Branch.allAmong [document.top], branch.Plain := fun branch inside =>
    reachable.sound.plain branch (mem_branches_of_top inside)
  rw [Css.Combinator.elements, along_descendants_document, nodesBelow, tree, Tree.children, complete]
  exact Branch.elementsOf_order plain

/-- The child elements of an element, or of a fragment, are those of the branches next below. -/
theorem elements_child (reachable : document.Reachable)
    (member : branch ∈ Branch.allAmong document.branches) (element : branch.kind.isElement = true)
    : Css.Combinator.child.elements document (document.standsFor branch)
      = branch.children.filterMap Branch.element? := by
  obtain ⟨place, found, below⟩ := exists_place?_standsFor reachable.sound member element
  rw [Css.Combinator.elements, along_of_place? found, Tree.Place.children, below, Branch.nodesBelow,
    List.map_append, Css.elementsOf_append, Branch.elementsOf_slot, List.nil_append]
  exact Branch.elementsOf_labels branch.children

/-- Around an element of the branches below another one stand that one's node and, as siblings, the
elements of the branches in front of it and behind it.
-/
theorem siblings_of_branch (reachable : document.Reachable) {above : Branch}
    (member : above ∈ Branch.allAmong document.branches) {front back : List Branch}
    (shape : above.children = front ++ branch :: back) {node : Node}
    (own : branch.element? = some node)
    : document.parent? node.ref = some (document.standsFor above)
      ∧ Css.Combinator.later.elements document node.ref = back.filterMap Branch.element?
      ∧ Css.Combinator.next.elements document node.ref
        = (back.filterMap Branch.element?).take 1
      ∧ Css.elementsOf (document.along Tree.Place.precedingSiblings node.ref)
        = (front.filterMap Branch.element?).reverse := by
  have sound := reachable.sound
  have element : above.kind.isElement = true := by
    by_contra other
    have nothing := (sound.plain above member (by simpa using other)).2
    simp [shape] at nothing
  obtain ⟨place, found, below⟩ := exists_place?_standsFor sound member element
  obtain ⟨named, tree, among, within⟩ := exists_tree_of_place? found
  have row : Css.elementsOf place.children
      = front.filterMap Branch.element? ++ node :: back.filterMap Branch.element? := by
    rw [← List.filterMap_cons_some own, ← List.filterMap_append, ← shape,
      ← elements_child reachable member element, Css.Combinator.elements, along_of_place? found]
  have inside : node ∈ Css.elementsOf place.children := by simp [row]
  obtain ⟨lower, among', same, up⟩ :=
    Tree.exists_place_of_mem_children within (List.mem_of_mem_filter inside)
  have found' := place?_of_mem_trees sound among among'
  have once : (Css.elementsOf place.children).Nodup :=
    ((nodup_refs_of_mem sound among).of_map.sublist
      (Tree.children_sublist_preorder within)).filter _
  rw [row, List.nodup_middle, List.nodup_cons, List.mem_append, not_or] at once
  obtain ⟨tag, attributes, rfl⟩ := Branch.eq_of_element? own
  rw [Tree.Place.children_of_up? up, Css.elementsOf_append, same, Branch.elementsOf_cons_element]
    at row
  rw [same] at found'
  obtain ⟨before, -, behind⟩ :=
    (List.append_cons_inj_of_notMem once.1.1 once.1.2).mp row.symm
  refine ⟨?_, ?_, ?_, ?_⟩
  · rw [parent?, found', Option.bind_some, Tree.Place.parent?_of_up? up, ← named]
    rfl
  · rw [Css.Combinator.elements, along_of_place? found', behind]
  · rw [Css.Combinator.elements, along_of_place? found', behind]
  · rw [along_of_place? found', before, Css.elementsOf, Css.elementsOf, List.filter_reverse,
      List.reverse_reverse]

end Document

end HtmlQuery
