import HtmlQuery.Proofs.Document.Descent
import HtmlQuery.Proofs.Document.SingleRemoval

/-! The text of a node is that of the text nodes at and below it, in every state of the document and
also in the parts that were taken out of it.
-/

namespace HtmlQuery

/-- The slot that a text node stands for; other nodes stand for none. -/
def NodeRef.slot? : NodeRef → Option Slot
  | text slot => some slot
  | _ => none

/-- The texts of several trees are put together tree by tree. -/
theorem textOf_preorderAll (trees : List (Tree Node))
    : textOf (Tree.preorderAll trees)
      = String.join (trees.map fun tree => textOf tree.preorder) := by
  induction trees with
  | nil => rw [Tree.preorderAll, textOf_nil, List.map_nil, String.join_nil]
  | cons tree rest ih => simp [Tree.preorderAll, ih]

namespace Document

variable {document : Document}

/-- The contents that the text nodes among some nodes have at present, one behind the other. -/
def contentsOf (document : Document) (refs : List NodeRef) : String :=
  String.join ((refs.filterMap NodeRef.slot?).map document.content)

theorem contentsOf_text (slot : Slot) (refs : List NodeRef)
    : document.contentsOf (.text slot :: refs)
      = document.content slot ++ document.contentsOf refs := by
  simp [contentsOf, NodeRef.slot?]

theorem contentsOf_other {ref : NodeRef} (other : ref.slot? = none) (refs : List NodeRef)
    : document.contentsOf (ref :: refs) = document.contentsOf refs := by
  rw [contentsOf, List.filterMap_cons_none other, ← contentsOf]

/-- Nodes that are shown as they are at present show the contents of the text nodes among them, by
induction on the nodes.
-/
theorem contentsOf_eq_textOf {nodes : List Node}
    (known : ∀ node ∈ nodes, document.node? node.ref = some node)
    : document.contentsOf (nodes.map Node.ref) = textOf nodes := by
  induction nodes with
  | nil => rfl
  | cons node rest ih =>
      have own := known node List.mem_cons_self
      have later := ih fun other member => known other (List.mem_cons_of_mem node member)
      rw [List.map_cons, textOf_cons, ← later]
      cases node with
      | document | element => exact contentsOf_other rfl _
      | text slot content =>
          obtain rfl : document.content slot = content := by simpa [node?, Node.ref] using own
          exact contentsOf_text slot _

-----------------------------------------------------------------------------------------
-- Trees and their roots
-----------------------------------------------------------------------------------------

/-- The root of a tree that branches of the document bring has the text of all nodes in the tree. -/
theorem fullText_of_brings (sound : document.Sound) {tree : Tree Node}
    (brings : Branch.Brings document.branches tree)
    (known : document.node? tree.label.ref = some tree.label)
    : document.fullText tree.label.ref = textOf tree.preorder := by
  cases brings with
  | text slot content =>
      obtain rfl : document.content slot = content := by
        simpa [node?, Tree.label, Node.ref] using known
      simp [Tree.label, Node.ref, fullText, Tree.preorder, Tree.preorderAll, Node.content]
  | element member kind =>
      have text := fullText_element sound member (kind ▸ rfl)
      simpa [Tree.label, Node.ref, Tree.preorder, Node.content] using text

/-- The document has the text of the nodes below it: the element at its top shows no text itself. -/
theorem fullText_document_eq (sound : document.Sound)
    : document.fullText .document = textOf document.nodesBelow := by
  rw [fullText_document sound, nodesBelow_eq sound]
  split
  · rfl
  · obtain ⟨tag, attributes, kind⟩ := Kind.exists_of_isElement sound.element
    simp [Branch.nodes_of_kind kind, Node.content]

/-- The text of the document is that of its children, one behind the other. -/
theorem fullText_document_eq_children (sound : document.Sound)
    : document.fullText .document
      = String.join ((document.along Tree.Place.children .document).map fun child =>
          document.fullText child.ref) := by
  have child : ∀ tree ∈ document.tree.children,
      document.fullText tree.label.ref = textOf tree.preorder := by
    intro tree inside
    have below : tree.label ∈ document.nodesBelow := by
      refine Tree.mem_preorderAll.mpr ⟨tree, inside, ?_⟩
      obtain ⟨label, trees⟩ := tree
      exact List.mem_cons_self
    obtain ⟨branch, member, shows⟩ := shows_of_mem sound below
    have known := node?_of_shows sound (mem_branches_of_top member) shows
    exact fullText_of_brings sound (document.brings_of_mem_tree tree inside) known
  have row : document.along Tree.Place.children .document = document.tree.children.map Tree.label :=
    along_of_place? (place?_document document) Tree.Place.children
  rw [fullText_document_eq sound, nodesBelow, textOf_preorderAll, row, List.map_map]
  exact congrArg String.join (List.map_congr_left fun tree inside => (child tree inside).symm)

-----------------------------------------------------------------------------------------
-- All nodes
-----------------------------------------------------------------------------------------

/-- The texts below a node have the contents that they show there. -/
theorem contentsOf_belowRefs (sound : document.Sound) (ref : NodeRef)
    : document.contentsOf (document.belowRefs ref)
      = textOf (document.along Tree.Place.descendants ref) :=
  contentsOf_eq_textOf fun _ below => node?_of_mem_descendants sound below

/-- An element has the text of the nodes below it, be it attached or not. -/
theorem fullText_element_eq (sound : document.Sound) {id : Nat}
    (isNode : document.IsNode (.element id))
    : document.fullText (.element id)
      = textOf (document.along Tree.Place.descendants (.element id)) := by
  have known := isNode.1
  cases found : document.branch? id with
  | none => simp [node?, found] at known
  | some branch =>
      obtain ⟨member, rfl, -⟩ := Branch.mem_numbers_of_findAmong? found
      have element : branch.kind.isElement = true :=
        (isSome_node?_element found).symm.trans known
      rw [descendants_element sound member isNode, fullText_element sound member element]

/--
In every state of a document, the text of a node is made of the contents of the text nodes at and
below it, in document order: comments, instructions and the texts behind them neither add to it nor
break it off. The document's text is at the same time that of its children.
-/
theorem fullText_eq_contents (reachable : document.Reachable) {ref : NodeRef}
    (isNode : document.IsNode ref)
    : document.fullText ref = document.contentsOf (ref :: document.belowRefs ref)
      ∧ document.fullText .document
        = String.join ((document.along Tree.Place.children .document).map fun child =>
            document.fullText child.ref) := by
  have sound := reachable.sound
  refine ⟨?_, fullText_document_eq_children sound⟩
  have below := contentsOf_belowRefs sound ref
  cases ref with
  | document =>
      rw [contentsOf_other rfl, below, along_descendants_document, fullText_document_eq sound]
  | element id => rw [contentsOf_other rfl, below, fullText_element_eq sound isNode]
  | text slot =>
      rw [along_descendants_text, textOf_nil] at below
      rw [contentsOf_text, below, String.append_empty, fullText]

/-- An element that was removed after a script in it, which stood behind a comment with text around
both.
-/
def removedParagraph : Document :=
  ((fragment [.element "p" []
    [.text "a", .comment "c", .text "b", .element "script" [] [.text "s"], .text "d"]]).remove
      (.element 3)).remove (.element 1)

/-- The text behind the script is part of the text behind the comment now. -/
theorem fullText_eq_contents_removed
    : removedParagraph.Reachable
      ∧ removedParagraph.IsNode (.element 1)
      ∧ removedParagraph.isAttached (.element 1) = false
      ∧ removedParagraph.belowRefs (.element 1) = [.text (.lead 1), .text (.tail 2)]
      ∧ removedParagraph.fullText (.element 1) = "abd" := by
  have reachable : removedParagraph.Reachable := .remove (.remove (.fragment _) _) _
  have top : removedParagraph.top.id = 0 := by cbv
  have isNode : removedParagraph.IsNode (.element 1) := ⟨by cbv, by simp [top]⟩
  have below : removedParagraph.belowRefs (.element 1) = [.text (.lead 1), .text (.tail 2)] := by
    cbv
  have text := (fullText_eq_contents reachable isNode).1
  have front : removedParagraph.content (.lead 1) = "a" := by cbv
  have joined : removedParagraph.content (.tail 2) = "bd" := by cbv
  rw [below, contentsOf_other rfl, contentsOf_text, contentsOf_text, front, joined] at text
  exact ⟨reachable, isNode, by cbv, below, text.trans (by simp [contentsOf])⟩

end Document

end HtmlQuery
