import HtmlQuery.Proofs.Document.Attachment
import HtmlQuery.Proofs.Tree.Kinship
import HtmlQuery.XPath.Evaluate

/-! Axes in opposite directions. A node is on an axis from another one just if the other one is on the
opposite axis from it, and no axis leads to a node twice.
-/

namespace HtmlQuery.XPath

open HtmlQuery.Tree

/-- The names of the nodes on an axis from a node. -/
def Axis.refs (axis : Axis) (document : Document) (ref : NodeRef) : List NodeRef :=
  (axis.nodes document ref).map Node.ref

section

variable {document : Document} {place other : Place Node}

/-- An attached node has its place in the tree. -/
theorem exists_place_of_isAttached (sound : document.Sound) {ref : NodeRef}
    (isNode : document.IsNode ref) (attached : document.isAttached ref = true)
    : ∃ place ∈ document.tree.places, place.label.ref = ref := by
  obtain ⟨node, member, rfl⟩ := Document.mem_tree_of_attached sound isNode attached
  obtain ⟨place, inside, -, rfl⟩ := Document.place?_of_mem sound member
  exact ⟨place, inside, rfl⟩

/-- Among nodes of the tree, a node is found by its name. -/
theorem mem_refs_iff (sound : document.Sound) {nodes : List Node}
    (within : nodes.Subperm document.tree.preorder) (member : place ∈ document.tree.places)
    : place.label.ref ∈ nodes.map Node.ref ↔ place.label ∈ nodes := by
  refine ⟨fun found => ?_, fun found => List.mem_map_of_mem found⟩
  obtain ⟨node, inside, same⟩ := List.mem_map.mp found
  have label : place.label ∈ document.tree.preorder := by
    rw [← labels_places]
    exact List.mem_map_of_mem member
  have distinct := Document.nodup_refs sound
  exact List.inj_on_of_nodup_map distinct (within.subset inside) label same ▸ inside

/-- A node of the tree is among those that some direction leads to just if its name is among theirs. -/
theorem mem_along_iff (sound : document.Sound) {toward : Place Node → List Node}
    (within : (toward place).Subperm document.tree.preorder)
    (member : place ∈ document.tree.places) (member' : other ∈ document.tree.places)
    : other.label.ref ∈ (document.along toward place.label.ref).map Node.ref
      ↔ other.label ∈ toward place := by
  rw [Document.along_of_place? (Document.place?_of_mem_places sound member),
    mem_refs_iff sound within member']

/-- Nodes of the tree that don't occur more often than there have different names. -/
theorem nodup_map_ref (sound : document.Sound) {nodes : List Node}
    (within : nodes.Subperm document.tree.preorder)
    : (nodes.map Node.ref).Nodup := by
  obtain ⟨row, permuted, sub⟩ := within
  have once := (Document.nodup_refs sound).sublist (sub.map Node.ref)
  exact (permuted.map Node.ref).nodup_iff.mp once

/-- No axis leads to a node twice. -/
theorem Axis.nodup_refs (sound : document.Sound) (member : place ∈ document.tree.places)
    (axis : Axis)
    : (axis.refs document place.label.ref).Nodup := by
  have distinct : document.tree.preorder.Nodup := (Document.nodup_refs sound).of_map
  have found := Document.place?_of_mem_places sound member
  cases axis
  case attributes => exact List.nodup_nil
  case self =>
    rw [refs, nodes]
    cases document.node? place.label.ref <;> simp
  all_goals
    rw [refs, nodes, Document.along_of_place? found]
    apply nodup_map_ref sound
  case ancestor => exact Place.ancestors_subperm distinct member
  case child => exact Place.children_subperm member
  case descendant => exact Place.descendants_subperm member
  case following => exact Place.following_subperm member
  case followingSibling => exact Place.followingSiblings_subperm member
  case parent => exact Place.parent?_subperm distinct member
  case preceding => exact Place.preceding_subperm distinct member
  case precedingSibling => exact Place.precedingSiblings_subperm distinct member

/-- The parent's name belongs to the parent only. -/
theorem refs_parent_eq_iff (sound : document.Sound) (member : place ∈ document.tree.places)
    (member' : other ∈ document.tree.places)
    : Axis.parent.refs document other.label.ref = [place.label.ref]
      ↔ other.parent? = some place.label := by
  have distinct : document.tree.preorder.Nodup := (Document.nodup_refs sound).of_map
  rw [Axis.refs, Axis.nodes,
    Document.along_of_place? (Document.place?_of_mem_places sound member')]
  refine ⟨fun same => ?_, fun parent => by rw [parent]; rfl⟩
  have above : place.label.ref ∈ other.parent?.toList.map Node.ref := by simp [same]
  rw [mem_refs_iff sound (Place.parent?_subperm distinct member') member] at above
  exact Option.mem_toList.mp above

end

/--
In every state of a document, an attached node is a child of another one just if that is its parent,
below it just if that is above it, behind it among its siblings just if that is before it, and follows
it just if that precedes it. No axis from a node leads to any node twice.
-/
theorem axes_converse {document : Document} (reachable : document.Reachable) {a b : NodeRef}
    (isNode : document.IsNode a) (attached : document.isAttached a = true)
    (isNode' : document.IsNode b) (attached' : document.isAttached b = true)
    : (a ∈ Axis.child.refs document b ↔ Axis.parent.refs document a = [b])
      ∧ (a ∈ Axis.descendant.refs document b ↔ b ∈ Axis.ancestor.refs document a)
      ∧ (a ∈ Axis.followingSibling.refs document b
        ↔ b ∈ Axis.precedingSibling.refs document a)
      ∧ (a ∈ Axis.following.refs document b ↔ b ∈ Axis.preceding.refs document a)
      ∧ ∀ axis : Axis, (axis.refs document b).Nodup := by
  have sound := reachable.sound
  obtain ⟨other, member', rfl⟩ := exists_place_of_isAttached sound isNode attached
  obtain ⟨place, member, rfl⟩ := exists_place_of_isAttached sound isNode' attached'
  have distinct : document.tree.preorder.Nodup := (Document.nodup_refs sound).of_map
  refine ⟨?_, ?_, ?_, ?_, Axis.nodup_refs sound member⟩
  · calc other.label.ref ∈ Axis.child.refs document place.label.ref
      _ ↔ other.label ∈ place.children :=
        mem_along_iff sound (Place.children_subperm member) member member'
      _ ↔ other.parent? = some place.label := mem_children_iff_parent? distinct member member'
      _ ↔ Axis.parent.refs document other.label.ref = [place.label.ref] :=
        (refs_parent_eq_iff sound member member').symm
  · calc other.label.ref ∈ Axis.descendant.refs document place.label.ref
      _ ↔ other.label ∈ place.descendants :=
        mem_along_iff sound (Place.descendants_subperm member) member member'
      _ ↔ place.label ∈ other.ancestors :=
        mem_descendants_iff_mem_ancestors distinct member member'
      _ ↔ place.label.ref ∈ Axis.ancestor.refs document other.label.ref :=
        (mem_along_iff sound (Place.ancestors_subperm distinct member') member' member).symm
  · calc other.label.ref ∈ Axis.followingSibling.refs document place.label.ref
      _ ↔ other.label ∈ place.followingSiblings :=
        mem_along_iff sound (Place.followingSiblings_subperm member) member member'
      _ ↔ place.label ∈ other.precedingSiblings :=
        mem_followingSiblings_iff_mem_precedingSiblings distinct member member'
      _ ↔ place.label.ref ∈ Axis.precedingSibling.refs document other.label.ref :=
        (mem_along_iff sound (Place.precedingSiblings_subperm distinct member') member'
          member).symm
  · calc other.label.ref ∈ Axis.following.refs document place.label.ref
      _ ↔ other.label ∈ place.following :=
        mem_along_iff sound (Place.following_subperm member) member member'
      _ ↔ place.label ∈ other.preceding := mem_following_iff_mem_preceding distinct member member'
      _ ↔ place.label.ref ∈ Axis.preceding.refs document other.label.ref :=
        (mem_along_iff sound (Place.preceding_subperm distinct member') member' member).symm

/-- An element and the text in front of it, which stands behind a comment: the text precedes the element
since the element follows the text, and it isn't the element's parent since it has no children.
-/
theorem axes_converse_behind_comment
    : Document.commented.Reachable
      ∧ Document.commented.IsNode (.element 2)
      ∧ Document.commented.isAttached (.element 2) = true
      ∧ Document.commented.IsNode (.text (.tail 1))
      ∧ Document.commented.isAttached (.text (.tail 1)) = true
      ∧ .text (.tail 1) ∈ Axis.preceding.refs Document.commented (.element 2)
      ∧ .text (.tail 1) ∈ Axis.precedingSibling.refs Document.commented (.element 2)
      ∧ Axis.parent.refs Document.commented (.element 2) ≠ [.text (.tail 1)] := by
  have reachable : Document.commented.Reachable := .remove (.fragment _) _
  have top : Document.commented.top.id = 0 := by cbv
  have element : Document.commented.IsNode (.element 2) := ⟨by cbv, by simp [top]⟩
  have text : Document.commented.IsNode (.text (.tail 1)) := ⟨by cbv, by simp⟩
  have attached : Document.commented.isAttached (.element 2) = true := by cbv
  have attached' : Document.commented.isAttached (.text (.tail 1)) = true := by cbv
  have following : Axis.following.refs Document.commented (.text (.tail 1)) = [.element 2] := by
    cbv
  have behind : Axis.followingSibling.refs Document.commented (.text (.tail 1)) = [.element 2] := by
    cbv
  have children : Axis.child.refs Document.commented (.text (.tail 1)) = [] := by cbv
  obtain ⟨parent, -, siblings, order, -⟩ := axes_converse reachable element attached text attached'
  rw [following] at order
  rw [behind] at siblings
  rw [children] at parent
  exact ⟨reachable, element, attached, text, attached', order.mp (by simp), siblings.mp (by simp),
    fun same => by simpa using parent.mpr same⟩

end HtmlQuery.XPath
