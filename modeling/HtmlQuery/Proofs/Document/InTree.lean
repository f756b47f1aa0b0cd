import HtmlQuery.Proofs.Document.Attachment
import HtmlQuery.Proofs.Document.Reattachment
import HtmlQuery.XPath.Evaluate

/-! The nodes in the tree of a document. From each of them, no axis leads out of the tree, and what
is removed later leaves no other nodes there.
-/

namespace HtmlQuery

namespace Document

/-- Whether a name belongs to a node in the tree. -/
def InTree (document : Document) (ref : NodeRef) : Prop :=
  ref ∈ document.tree.preorder.map Node.ref

-----------------------------------------------------------------------------------------
-- Attached nodes
-----------------------------------------------------------------------------------------

/-- The holder of a fragment's nodes is not below the document. -/
theorem ref_ne_holder {document : Document} (sound : document.Sound)
    (fragment : document.isFragment = true) {node : Node} (below : node ∈ document.nodesBelow)
    : node.ref ≠ .element document.top.id := by
  have plain : ∀ branch ∈ Branch.allAmong document.top.children, branch.Plain :=
    fun branch member => sound.plain branch
      (mem_branches_of_top (Branch.mem_allAmong_cons.mpr (.inr (.inl member))))
  rw [nodesBelow, tree, if_pos fragment, Tree.children, Branch.nodesBelow,
    Tree.preorderAll_append, List.mem_append, Branch.mem_trees_iff] at below
  rcases below with ⟨-, rfl⟩ | below
  · simp [Node.ref]
  · obtain ⟨branch, member, shows⟩ := (Branch.mem_order_iff node _ plain).mp below
    have distinct := sound.distinct_top
    rw [Branch.numbers_cons, List.nodup_cons, List.mem_append, not_or] at distinct
    intro same
    cases shows with
    | element => exact distinct.1.1 (NodeRef.element.inj same ▸ List.mem_map_of_mem member)
    | lead | tail => cases same

/-- The names in the tree are those of attached nodes. -/
theorem inTree_iff {document : Document} (sound : document.Sound) {ref : NodeRef}
    : document.InTree ref ↔ document.isAttached ref = true ∧ document.IsNode ref := by
  constructor
  · intro inside
    obtain ⟨node, member, rfl⟩ := List.mem_map.mp inside
    obtain ⟨place, -, found, -⟩ := place?_of_mem sound member
    have known := node?_of_place? sound found
    rw [preorder_tree] at member
    rcases List.mem_cons.mp member with rfl | below
    · exact ⟨rfl, rfl, by simp [Node.ref]⟩
    · exact ⟨isAttached_of_mem sound below, by simp [known],
        fun fragment => ref_ne_holder sound fragment below⟩
  · rintro ⟨attached, isNode⟩
    obtain ⟨node, member, rfl⟩ := mem_tree_of_attached sound isNode attached
    exact List.mem_map_of_mem member

/-- Of what is attached after some removals, the nodes are those that were nodes before. -/
theorem isNode_of_isAttached_removeAll {document : Document} (reachable : document.Reachable)
    {refs : List NodeRef} {ref : NodeRef}
    (known : document.isAttached ref = true → document.IsNode ref)
    (attached : (document.removeAll refs).isAttached ref = true)
    : (document.removeAll refs).IsNode ref := by
  have sound := reachable.sound
  have later := (reachable.removeAll refs).sound
  refine isNode_removeAll sound ?_ later attached
  cases ref with
  | document | text => exact ⟨rfl, by simp⟩
  | element id =>
      obtain ⟨gap, outside, slot⟩ := (isAttached_element_removeAll_iff sound refs id).mp attached
      have within := Branch.gaps_subset _ _ outside
      exact known ((isAttached_element_iff document id).mpr ⟨gap, within, slot⟩)

-----------------------------------------------------------------------------------------
-- Axes
-----------------------------------------------------------------------------------------

/-- What an axis leads to is in the tree that it starts from. -/
theorem mem_preorder_of_axis {document : Document} (sound : document.Sound) {ref : NodeRef}
    {tree : Tree Node} {place : Tree.Place Node} (found : document.place? ref = some place)
    (within : place ∈ tree.places) (axis : XPath.Axis) {node : Node}
    (member : node ∈ axis.nodes document ref)
    : node ∈ tree.preorder := by
  cases axis <;> simp only [XPath.Axis.nodes, along_of_place? found] at member
  case ancestor => exact Tree.mem_preorder_of_mem_ancestors within member
  case «attributes» => cases member
  case child => exact (Tree.children_sublist_preorder within).subset member
  case descendant =>
    exact List.mem_of_mem_tail (Tree.mem_tail_preorder_of_mem_descendants within member)
  case following => exact Tree.mem_preorder_of_mem_following within member
  case followingSibling =>
    exact Tree.mem_preorder_of_mem_following within
      (Tree.Place.mem_following_of_mem_followingSiblings member)
  case parent =>
    refine Tree.mem_preorder_of_mem_ancestors within ?_
    rw [Tree.Place.parent?, Option.mem_toList, Option.map_eq_some_iff] at member
    obtain ⟨frame, head, rfl⟩ := member
    exact List.mem_map_of_mem (List.mem_of_mem_head? head)
  case preceding => exact Tree.mem_preorder_of_mem_preceding within member
  case precedingSibling =>
    exact Tree.mem_preorder_of_mem_preceding within
      (Tree.Place.mem_preceding_of_mem_precedingSiblings member)
  case self =>
    rw [node?_of_place? sound found] at member
    obtain rfl := List.mem_singleton.mp member
    rw [← Tree.labels_places]
    exact List.mem_map_of_mem within

/-- What an axis leads to from a node in the tree is in the tree. -/
theorem InTree.of_axis {document : Document} (sound : document.Sound) {ref : NodeRef}
    (inside : document.InTree ref) (axis : XPath.Axis) {node : Node}
    (member : node ∈ axis.nodes document ref)
    : document.InTree node.ref := by
  obtain ⟨start, among, rfl⟩ := List.mem_map.mp inside
  obtain ⟨place, within, found, rfl⟩ := place?_of_mem sound among
  exact List.mem_map_of_mem (mem_preorder_of_axis sound found within axis member)

/-- What an axis leads to is known by its name. -/
theorem node?_of_axis {document : Document} (sound : document.Sound) {ref : NodeRef}
    (axis : XPath.Axis) {node : Node} (member : node ∈ axis.nodes document ref)
    : document.node? node.ref = some node := by
  cases found : document.place? ref with
  | some place =>
      obtain ⟨-, tree, among, within⟩ := exists_tree_of_place? found
      exact node?_of_mem_preorder sound among (mem_preorder_of_axis sound found within axis member)
  | none =>
      -- without a place, there is only the way to the node itself
      cases axis <;> simp only [XPath.Axis.nodes, along, found, Option.map_none, Option.getD_none,
        List.not_mem_nil, Option.mem_toList] at member
      rw [ref_of_node? member]
      exact member

end Document

end HtmlQuery
