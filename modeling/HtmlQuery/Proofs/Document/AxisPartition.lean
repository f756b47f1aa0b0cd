import HtmlQuery.Proofs.Document.Nodes

/-! The axes of a node share out the nodes of the document among themselves. -/

namespace HtmlQuery.Document

/-- An axis goes on from the place of a name. -/
theorem along_of_place? {document : Document} {ref : NodeRef} {place : Tree.Place Node}
    (found : document.place? ref = some place) (axis : Tree.Place Node → List Node)
    : document.along axis ref = axis place := by
  rw [along, found, Option.map_some, Option.getD_some]

/-- The document itself is the place around its tree. -/
theorem place?_document (document : Document)
    : document.place? .document = some ⟨document.tree, []⟩ := by
  rw [place?, List.findSome?_cons, Tree.find?, Tree.places, tree, Tree.placesWithin]
  rfl

/-- What is before a place begins with the root, which is above the place, unless the place is the
root itself.
-/
theorem before_of_mem_places {document : Document} {place : Tree.Place Node}
    (member : place ∈ document.tree.places) (other : place.label ≠ .document)
    : Node.document ∈ place.ancestors ∧ ∃ rest, place.before = .document :: rest := by
  have whole := Tree.preorder_of_mem_places member
  rw [preorder_tree, Tree.Place.before] at whole
  rw [Tree.Place.before]
  cases outwards : place.frames.reverse with
  | nil =>
      rw [outwards, List.flatMap_nil, List.nil_append] at whole
      exact (other (List.cons.inj whole).1.symm).elim
  | cons frame inner =>
      rw [outwards, List.flatMap_cons, List.cons_append, List.cons_append] at whole
      obtain ⟨root, -⟩ := List.cons.inj whole
      rw [List.flatMap_cons, List.cons_append, ← root]
      refine ⟨?_, _, rfl⟩
      rw [root, Tree.Place.ancestors]
      refine List.mem_map_of_mem (List.mem_reverse.mp ?_)
      rw [outwards]
      exact List.mem_cons_self

/--
The nodes below the document, each of which occurs once, are those before an attached node, the node
itself, those below it and those that follow it. Of the nodes before it, the ones that are not above
it precede it, and the others are its ancestors from the outermost one on.
-/
theorem axes_partition {document : Document} (reachable : document.Reachable) {ref : NodeRef}
    (isNode : document.IsNode ref) (attached : document.isAttached ref = true)
    (other : ref ≠ .document)
    : ((document.along Tree.Place.descendants .document).map Node.ref).Nodup
      ∧ ∃ node before,
        document.node? ref = some node
        ∧ document.along Tree.Place.descendants .document
          = before ++ [node] ++ document.along Tree.Place.descendants ref
            ++ document.along Tree.Place.following ref
        ∧ before.filter (· ∉ document.along Tree.Place.ancestors ref)
          = document.along Tree.Place.preceding ref
        ∧ before.filter (· ∈ document.along Tree.Place.ancestors ref)
          = ((document.along Tree.Place.ancestors ref).filter (· ≠ .document)).reverse := by
  have sound := reachable.sound
  obtain ⟨node, member, rfl⟩ := mem_tree_of_attached sound isNode attached
  obtain ⟨place, inside, found, rfl⟩ := place?_of_mem sound member
  have root : place.label ≠ .document := by
    intro same
    exact other (by rw [same]; rfl)
  have distinct := nodup_refs sound
  have whole := Tree.preorder_of_mem_places inside
  obtain ⟨isAbove, rest, before⟩ := before_of_mem_places inside root
  have once : place.before.Nodup := by
    have all : (document.tree.preorder).Nodup := List.Nodup.of_map Node.ref distinct
    rw [whole] at all
    exact (List.nodup_append'.mp all).1
  have absent : Node.document ∉ rest := by
    rw [before] at once
    exact (List.nodup_cons.mp once).1
  have above := Tree.Place.filter_mem_ancestors once
  have beside := Tree.Place.filter_not_mem_ancestors once
  rw [preorder_tree, before] at whole
  rw [before] at above beside
  simp only [along_of_place? found, along_of_place? (place?_document document)]
  rw [preorder_tree, List.map_cons] at distinct
  rw [List.filter_cons_of_pos (by simpa using isAbove)] at above
  rw [List.filter_cons_of_neg (by simpa using isAbove)] at beside
  refine ⟨(List.nodup_cons.mp distinct).2, place.label, rest,
    node?_of_place? sound found, ?_, beside, ?_⟩
  · have below := (List.cons.inj whole).2
    rw [List.append_assoc, List.append_assoc, List.singleton_append]
    exact below
  · rw [← List.filter_reverse, ← above, List.filter_cons_of_neg (by simp), List.filter_filter]
    apply List.filter_congr
    intro label member
    have apart : label ≠ .document := by
      rintro rfl
      exact absent member
    simp [apart]

/-- A fragment in which a comment stood between two texts, the first of which was removed. -/
def commented : Document :=
  (fragment [.text "a", .comment "c", .text "b", .element "p" [] []]).remove (.text (.lead 0))

/-- The text behind a comment, which is no node: only the element follows the text. -/
theorem axes_partition_behind_comment
    : commented.Reachable
      ∧ commented.IsNode (.text (.tail 1))
      ∧ commented.isAttached (.text (.tail 1)) = true
      ∧ ((commented.along Tree.Place.descendants .document).map Node.ref).Nodup
      ∧ ∃ node before,
        commented.node? (.text (.tail 1)) = some node
        ∧ commented.along Tree.Place.descendants .document
          = before ++ [node] ++ commented.along Tree.Place.descendants (.text (.tail 1))
            ++ [.element 2 "p" []]
        ∧ before.filter (· ∉ commented.along Tree.Place.ancestors (.text (.tail 1)))
          = commented.along Tree.Place.preceding (.text (.tail 1)) := by
  have reachable : commented.Reachable := .remove (.fragment _) _
  have isNode : commented.IsNode (.text (.tail 1)) := ⟨by cbv, by simp⟩
  have attached : commented.isAttached (.text (.tail 1)) = true := by cbv
  have following : commented.along Tree.Place.following (.text (.tail 1)) = [.element 2 "p" []] := by
    cbv
  obtain ⟨distinct, node, before, found, whole, precede, -⟩ :=
    axes_partition reachable isNode attached (by simp)
  rw [following] at whole
  exact ⟨reachable, isNode, attached, distinct, node, before, found, whole, precede⟩

end HtmlQuery.Document
