import HtmlQuery.Document.Markup
import HtmlQuery.Proofs.Document.InTree
import HtmlQuery.Proofs.Document.RemovedNodes
import HtmlQuery.Proofs.Document.Subtrees
import HtmlQuery.Proofs.Tree.Kinship

/-! The removal of one node. All nodes above it keep the texts and elements that stand around it, and
what is taken out stays whole.
-/

namespace HtmlQuery

open Css (elementsOf)

namespace Branch

/-- The text behind a branch belongs neither to its nodes nor to its text or markup. -/
theorem withTail_eq (branch : Branch) (tail : String)
    : (branch.withTail tail).id = branch.id ∧ (branch.withTail tail).kind = branch.kind
      ∧ (branch.withTail tail).nodesBelow = branch.nodesBelow
      ∧ (branch.withTail tail).fullText = branch.fullText
      ∧ (branch.withTail tail).outerMarkup = branch.outerMarkup := by
  obtain ⟨id, kind, lead, children, behind⟩ := branch
  refine ⟨rfl, rfl, rfl, ?_, ?_⟩
  · cases kind <;> simp only [withTail, fullText]
  · cases kind <;> simp only [withTail, outerMarkup, written]

theorem prune_eq (gone : Nat → Bool) (branch : Branch)
    : (branch.prune gone).id = branch.id ∧ (branch.prune gone).kind = branch.kind := by
  cases branch
  exact ⟨rfl, rfl⟩

theorem clear_eq (slot : Slot) (branch : Branch)
    : (branch.clear slot).id = branch.id ∧ (branch.clear slot).kind = branch.kind := by
  cases branch
  exact ⟨rfl, rfl⟩

end Branch

namespace Document

variable {document : Document}

-----------------------------------------------------------------------------------------
-- Branches at or below the top
-----------------------------------------------------------------------------------------

theorem top_remove_id (sound : document.Sound) (ref : NodeRef)
    : (document.remove ref).top.id = document.top.id := by
  cases ref with
  | document => rfl
  | element id => rw [remove, top_removeElement, (Branch.prune_eq _ _).1]
  | text slot => rw [top_removeText sound, (Branch.clear_eq _ _).1]

/-- An element at or below the top has the text of the nodes below it. -/
theorem fullText_element (sound : document.Sound) {branch : Branch}
    (member : branch ∈ Branch.allAmong document.branches) (element : branch.kind.isElement = true)
    : document.fullText (.element branch.id) = textOf (Tree.preorderAll branch.nodesBelow) := by
  have plain : ∀ below ∈ Branch.allAmong branch.children, below.Plain := fun below inside =>
    sound.plain below (Branch.mem_allAmong_of_below inside _ member)
  obtain ⟨tag, attributes, kind⟩ := Kind.exists_of_isElement element
  rw [fullText, branch?, (Branch.findAmong?_eq_some sound.distinct).mpr member, Option.map_some,
    Option.getD_some, Branch.fullText_eq_textOf branch plain, Branch.nodes_of_kind kind]
  simp [Node.content]

/-- The document has the text of the nodes below its top. -/
theorem fullText_document (sound : document.Sound)
    : document.fullText .document = textOf (Tree.preorderAll document.top.nodesBelow) := by
  have member : document.top ∈ Branch.allAmong document.branches :=
    Branch.mem_allAmong_cons.mpr (.inl rfl)
  rw [← fullText_element sound member sound.element, fullText, fullText, branch?,
    (Branch.findAmong?_eq_some sound.distinct).mpr member]
  rfl

-----------------------------------------------------------------------------------------
-- What is left below a branch
-----------------------------------------------------------------------------------------

/-- A branch of the tree that is found in place of another one after a node was removed: below it,
nothing but that node and what was below that is missing.
-/
structure Left (document : Document) (node : Node) (around left : Branch) : Prop where
  member : left ∈ Branch.allAmong [(document.remove node.ref).top]
  id : left.id = around.id
  kind : left.kind = around.kind
  lacks
    : Lacks (node :: document.along Tree.Place.descendants node.ref)
        (Tree.preorderAll around.nodesBelow) (Tree.preorderAll left.nodesBelow)

/-- A node that stands below an element of the tree is missing there once it is removed, whatever it
is.
-/
theorem exists_left (sound : document.Sound) {around : Branch}
    (member : around ∈ Branch.allAmong [document.top]) (element : around.kind.isElement = true)
    {node : Node} (below : node ∈ Tree.preorderAll around.nodesBelow)
    : ∃ left, document.Left node around left := by
  have distinct : (Branch.numbers [around]).Nodup :=
    sound.distinct_top.sublist ((Branch.allAmong_sublist [document.top] member).map Branch.id)
  have plain : ∀ inner ∈ Branch.allAmong around.children, inner.Plain := fun inner inside =>
    sound.plain inner
      (mem_branches_of_top (Branch.mem_allAmong_of_below inside [document.top] member))
  cases node with
  | document =>
      obtain ⟨⟨⟩⟩ | ⟨branch, -, ⟨⟩⟩ := Branch.shows_of_mem_nodesBelow plain below
  | text slot content =>
      obtain ⟨tail, found⟩ := Branch.mem_clear slot member
      rw [← top_removeText sound] at found
      obtain ⟨id, kind, nodes, -⟩ := (around.clear slot).withTail_eq tail
      obtain ⟨id', kind'⟩ := around.clear_eq slot
      refine ⟨_, found, id.trans id', kind.trans kind', ?_⟩
      rw [nodes, Branch.nodesBelow_clear, show Node.ref (.text slot content) = .text slot from rfl,
        along_descendants_text]
      exact lacks_filter (Branch.nodup_refs_nodesBelow element distinct) below
  | element id tag attributes =>
      obtain ⟨⟨⟩⟩ | ⟨branch, inside, shows⟩ := Branch.shows_of_mem_nodesBelow plain below
      cases shows with
      | element own =>
          obtain ⟨tail, found⟩ :=
            Branch.mem_prune sound.distinct_top member (List.mem_map_of_mem inside)
          rw [← top_removeElement] at found
          obtain ⟨id, kind, nodes, -⟩ := (around.prune (· == branch.id)).withTail_eq tail
          obtain ⟨id', kind'⟩ := around.prune_eq (· == branch.id)
          have lower : branch ∈ Branch.allAmong document.top.children := by
            rcases Branch.mem_allAmong_cons.mp member with rfl | member | nothing
            · exact inside
            · exact Branch.mem_allAmong_of_below inside _ member
            · simp [Branch.allAmong] at nothing
          have within : branch ∈ Branch.allAmong document.branches :=
            mem_branches_of_top (Branch.mem_allAmong_cons.mpr (.inr (.inl lower)))
          have isNode := (isNode_element_iff sound lower).mpr (by rw [own]; rfl)
          refine ⟨_, found, id.trans id', kind.trans kind', ?_⟩
          rw [nodes, show Node.ref (.element branch.id tag attributes) = .element branch.id from rfl,
            descendants_element sound within isNode, ← Branch.nodes_of_kind own]
          rw [Branch.numbers_cons, List.nodup_cons, List.nodup_append'] at distinct
          exact Branch.lacks_prune plain distinct.2.1 inside

/-- What becomes of the nodes below a node when another one, with what is below that, is taken out of
them.
-/
structure Loses (document : Document) (node above : Node) : Prop where
  lacks
    : Lacks (node :: document.along Tree.Place.descendants node.ref)
        (document.along Tree.Place.descendants above.ref)
        ((document.remove node.ref).along Tree.Place.descendants above.ref)
  text
    : (document.remove node.ref).fullText above.ref
      = textOf ((document.remove node.ref).along Tree.Place.descendants above.ref)

/-- An element of the tree loses the nodes that are removed below it. -/
theorem loses_element (sound : document.Sound) {around : Branch}
    (member : around ∈ Branch.allAmong [document.top])
    (isNode : document.IsNode (.element around.id)) {tag : String} {attributes : List Attribute}
    (kind : around.kind = .element tag attributes) {node : Node}
    (below : node ∈ document.along Tree.Place.descendants (.element around.id))
    : document.Loses node (.element around.id tag attributes) := by
  have element : around.kind.isElement = true := by rw [kind]; rfl
  have here := descendants_element sound (mem_branches_of_top member) isNode
  rw [here] at below
  obtain ⟨left, found⟩ := exists_left sound member element below
  have later := sound.remove node.ref
  have within := mem_branches_of_top found.member
  have attached : (document.remove node.ref).isAttached (.element left.id) = true := by
    rw [isAttached, Branch.find?_eq, (Branch.findAmong?_eq_some later.distinct_top).mpr found.member]
    rfl
  have isNode' : (document.removeAll [node.ref]).IsNode (.element left.id) :=
    isNode_removeAll sound (found.id ▸ isNode) later attached
  have there := descendants_element later within isNode'
  have text := fullText_element later within (found.kind ▸ element)
  rw [found.id] at there text
  refine ⟨?_, ?_⟩
  · rw [show Node.ref (.element around.id tag attributes) = .element around.id from rfl, here, there]
    exact found.lacks
  · exact text.trans (congrArg textOf there.symm)

/-- The document loses the nodes that are removed below its top. -/
theorem loses_document (sound : document.Sound) {node : Node}
    (below : node ∈ Tree.preorderAll document.top.nodesBelow)
    : document.Loses node .document := by
  have later := sound.remove node.ref
  obtain ⟨left, found⟩ := exists_left sound (Branch.mem_allAmong_cons.mpr (.inl rfl))
    sound.element below
  obtain rfl : left = (document.remove node.ref).top := by
    refine List.inj_on_of_nodup_map later.distinct_top found.member
      (Branch.mem_allAmong_cons.mpr (.inl rfl)) (found.id.trans (top_remove_id sound _).symm)
  obtain ⟨tag, attributes, kind⟩ := Kind.exists_of_isElement sound.element
  have own := Branch.nodes_of_kind kind
  have own' := Branch.nodes_of_kind (found.kind.trans kind)
  rw [found.id] at own'
  refine ⟨?_, ?_⟩
  · rw [Node.ref, along_descendants_document, along_descendants_document, nodesBelow_eq sound,
      nodesBelow_eq later, isFragment_remove, own, own']
    cases document.isFragment with
    | true => exact found.lacks
    | false => simpa using found.lacks.within [.element document.top.id tag attributes] []
  · rw [Node.ref, fullText_document later, along_descendants_document, nodesBelow_eq later,
      isFragment_remove, own']
    cases document.isFragment <;> simp [Node.content]

/-- All nodes above a node lose it when it is removed. -/
theorem loses_above (sound : document.Sound) {place : Tree.Place Node}
    (member : place ∈ document.tree.places)
    (notRoot : document.root? ≠ some place.label.ref) {above : Node}
    (isAbove : above ∈ place.ancestors)
    : document.Loses place.label above := by
  have distinct : document.tree.preorder.Nodup := (nodup_refs sound).of_map
  have inTree := List.mem_map_of_mem (f := Node.ref)
    (Tree.mem_preorder_of_mem_ancestors member isAbove)
  obtain ⟨upper, within, found, rfl⟩ :=
    place?_of_mem sound (Tree.mem_preorder_of_mem_ancestors member isAbove)
  have below := Tree.mem_descendants_of_mem_ancestors distinct within member isAbove
  rw [← along_of_place? found Tree.Place.descendants] at below
  have inside := Tree.mem_preorder_of_mem_ancestors member isAbove
  rw [preorder_tree] at inside
  rcases List.mem_cons.mp inside with root | inside
  · rw [root] at below ⊢
    refine loses_document sound ?_
    rw [show Node.document.ref = .document from rfl, along_descendants_document,
      nodesBelow_eq sound] at below
    rw [root?] at notRoot
    cases fragment : document.isFragment with
    | true => simpa [fragment] using below
    | false =>
        obtain ⟨tag, attributes, kind⟩ := Kind.exists_of_isElement sound.element
        rw [fragment, Branch.nodes_of_kind kind] at below
        rcases List.mem_cons.mp below with same | below
        · rw [same, fragment] at notRoot
          exact (notRoot rfl).elim
        · exact below
  · obtain ⟨around, among, shows⟩ := shows_of_mem sound inside
    have isNode := ((inTree_iff sound).mp inTree).2
    generalize upper.label = above at shows below isNode ⊢
    cases shows with
    | element kind => exact loses_element sound among isNode kind below
    | lead | tail =>
        rw [Node.ref, along_descendants_text] at below
        cases below

-----------------------------------------------------------------------------------------
-- What is taken out
-----------------------------------------------------------------------------------------

/-- A branch that isn't found has no number there. -/
theorem findAmong?_eq_none {wanted : Nat} {branches : List Branch}
    (absent : wanted ∉ Branch.numbers branches)
    : Branch.findAmong? wanted branches = none := by
  cases found : Branch.findAmong? wanted branches with
  | none => rfl
  | some branch => exact (absent (Branch.mem_numbers_of_findAmong? found).2.2).elim

/-- Nodes of the parts that were taken out are not attached. -/
theorem not_isAttached_of_shows (sound : document.Sound) {branch : Branch}
    (member : branch ∈ Branch.allAmong document.detached) {node : Node} (shows : branch.Shows node)
    : document.isAttached node.ref = false := by
  have distinct := sound.distinct
  rw [branches, Branch.numbers_cons, List.nodup_cons, List.nodup_append', List.mem_append,
    not_or] at distinct
  obtain ⟨⟨-, top⟩, -, -, apart⟩ := distinct
  have taken : branch.id ∈ Branch.numbers document.detached := List.mem_map_of_mem member
  have below : branch.id ∉ Branch.numbers document.top.children := fun inside => apart inside taken
  have within : branch.id ∉ Branch.numbers [document.top] := by
    rw [Branch.numbers_cons, Branch.numbers_nil, List.append_nil]
    exact List.not_mem_cons_of_ne_of_not_mem (fun same => top (same ▸ taken)) below
  cases shows with
  | element | lead => simp [Node.ref, isAttached, Branch.find?_eq, findAmong?_eq_none within]
  | tail => simp [Node.ref, isAttached, findAmong?_eq_none below]

/-- An element is taken out with all of its nodes, and stays as it is. -/
theorem whole_of_removed (sound : document.Sound) {branch : Branch}
    (inside : branch ∈ Branch.allAmong document.top.children) {tag : String}
    {attributes : List Attribute} (kind : branch.kind = .element tag attributes)
    : (∀ gone ∈ branch.nodes,
        (document.remove (.element branch.id)).isAttached gone.ref = false)
      ∧ (document.remove (.element branch.id)).along Tree.Place.descendants (.element branch.id)
        = document.along Tree.Place.descendants (.element branch.id)
      ∧ (document.remove (.element branch.id)).outerMarkup (.element branch.id)
        = document.outerMarkup (.element branch.id)
      ∧ (document.remove (.element branch.id)).fullText (.element branch.id)
        = document.fullText (.element branch.id) := by
  have later := sound.remove (.element branch.id)
  have within : branch ∈ Branch.allAmong document.branches :=
    mem_branches_of_top (Branch.mem_allAmong_cons.mpr (.inr (.inl inside)))
  have isNode := (isNode_element_iff sound inside).mpr (by rw [kind]; rfl)
  have below := sound.distinct_top
  rw [Branch.numbers_cons, List.nodup_cons, Branch.numbers_nil, List.append_nil] at below
  have detached : (document.remove (.element branch.id)).detached
      = branch.withTail "" :: document.detached := by
    rw [remove, removeElement, (Branch.findAmong?_eq_some below.2).mpr inside]
  obtain ⟨id, kind', nodes, text, markup⟩ := branch.withTail_eq ""
  have taken
      : branch.withTail "" ∈ Branch.allAmong (document.remove (.element branch.id)).detached := by
    rw [detached]
    exact Branch.mem_allAmong_cons.mpr (.inl rfl)
  have among
      : branch.withTail "" ∈ Branch.allAmong (document.remove (.element branch.id)).branches :=
    Branch.mem_allAmong_cons.mpr (.inr (.inr taken))
  have found := (Branch.findAmong?_eq_some sound.distinct).mpr within
  have found' := (Branch.findAmong?_eq_some later.distinct).mpr among
  rw [id] at found'
  refine ⟨fun gone member => ?_, ?_, ?_, ?_⟩
  · have plain : ∀ lower ∈ Branch.allAmong (document.remove (.element branch.id)).detached,
        lower.Plain :=
      fun lower member => later.plain lower (Branch.mem_allAmong_cons.mpr (.inr (.inr member)))
    have ordered : gone ∈ Branch.order (document.remove (.element branch.id)).detached := by
      rw [detached]
      obtain ⟨number, kind, lead, children, tail⟩ := branch
      rw [Branch.withTail, Branch.order_cons]
      exact List.mem_append_left _ member
    obtain ⟨lower, among, shows⟩ := (Branch.mem_order_iff gone _ plain).mp ordered
    exact not_isAttached_of_shows later among shows
  · have isNode'
        : (document.remove (.element branch.id)).IsNode (.element (branch.withTail "").id) := by
      refine ⟨?_, fun fragment => ?_⟩
      · rw [isSome_node?_element ((Branch.findAmong?_eq_some later.distinct).mpr among), kind', kind]
        rfl
      · rw [top_remove_id sound, id]
        exact isNode.2 (isFragment_remove document _ ▸ fragment)
    have there := descendants_element later among isNode'
    rw [id, nodes] at there
    rw [there, descendants_element sound within isNode]
  · simp [outerMarkup, branch?, found, found', markup]
  · simp [fullText, branch?, found, found', text]

-----------------------------------------------------------------------------------------
-- One removal
-----------------------------------------------------------------------------------------

/--
Removing an attached text, or an attached element other than the root, takes out the node and what is
below it, and nothing else. Of the document and of all other nodes above the node, the text becomes
that of the text nodes before the node and of those behind what is below it, and the elements stay the
same, in order and with their attributes. What is taken out is detached and stays as it is.
-/
theorem remove_keeps_rest {document : Document} (reachable : document.Reachable) {ref : NodeRef}
    (isNode : document.IsNode ref) (attached : document.isAttached ref = true)
    (other : ref ≠ .document) (notRoot : document.root? ≠ some ref)
    : ∃ node,
        document.node? ref = some node
        ∧ Node.document ∈ document.along Tree.Place.ancestors ref
        ∧ (∀ above ∈ document.along Tree.Place.ancestors ref, ∃ before after,
            document.along Tree.Place.descendants above.ref
              = before ++ node :: document.along Tree.Place.descendants ref ++ after
            ∧ (document.remove ref).fullText above.ref = textOf before ++ textOf after
            ∧ elementsOf ((document.remove ref).along Tree.Place.descendants above.ref)
              = elementsOf before ++ elementsOf after)
        ∧ (∀ id, document.IsNode (.element id) →
            ((document.remove ref).isAttached (.element id) = true
              ↔ document.isAttached (.element id) = true
                ∧ .element id
                  ∉ (node :: document.along Tree.Place.descendants ref).map Node.ref))
        ∧ ∀ id, ref = .element id →
            (∀ gone ∈ node :: document.along Tree.Place.descendants ref,
              (document.remove ref).isAttached gone.ref = false)
            ∧ (document.remove ref).along Tree.Place.descendants ref
              = document.along Tree.Place.descendants ref
            ∧ (document.remove ref).outerMarkup ref = document.outerMarkup ref
            ∧ (document.remove ref).fullText ref = document.fullText ref := by
  have sound := reachable.sound
  obtain ⟨node, member, rfl⟩ := mem_tree_of_attached sound isNode attached
  obtain ⟨place, inside, found, rfl⟩ := place?_of_mem sound member
  have root : place.label ≠ .document := fun same => other (by rw [same]; rfl)
  have outermost := (before_of_mem_places inside root).1
  have along := along_of_place? found Tree.Place.ancestors
  have loses {above : Node} (isAbove : above ∈ place.ancestors)
      : document.Loses place.label above :=
    loses_above sound inside notRoot isAbove
  rw [along]
  refine ⟨place.label, node?_of_place? sound found, outermost, fun above isAbove => ?_,
    fun id isElement => ?_, fun id same => ?_⟩
  · obtain ⟨⟨before, after, whole, text, elements⟩, full⟩ := loses isAbove
    exact ⟨before, after, by simpa using whole, full.trans text, elements⟩
  · have later := sound.remove place.label.ref
    have lacks := (loses outermost).lacks
    have distinct := nodup_refs sound
    rw [preorder_tree, List.map_cons, List.nodup_cons] at distinct
    rw [show Node.document.ref = .document from rfl, along_descendants_document,
      along_descendants_document] at lacks
    have kept : (document.removeAll [place.label.ref]).isAttached (.element id) = true →
        (document.removeAll [place.label.ref]).IsNode (.element id) :=
      isNode_removeAll sound isElement later
    rw [isAttached_iff_mem later kept (by simp),
      isAttached_iff_mem sound (fun _ => isElement) (by simp)]
    exact lacks.element_mem_iff distinct.2 id
  · rw [preorder_tree] at member
    obtain ⟨branch, among, shows⟩ :=
      shows_of_mem sound ((List.mem_cons.mp member).resolve_left root)
    generalize place.label = node at same shows isNode notRoot ⊢
    cases shows with
    | lead | tail => cases same
    | element kind =>
        have below : branch ∈ Branch.allAmong document.top.children := by
          rcases Branch.mem_allAmong_cons.mp among with rfl | below | nothing
          · rw [root?] at notRoot
            cases fragment : document.isFragment with
            | true => exact (isNode.2 fragment rfl).elim
            | false => simp [fragment, Node.ref] at notRoot
          · exact below
          · simp [Branch.allAmong] at nothing
        have whole := whole_of_removed sound below kind
        rw [Branch.nodes_of_kind kind,
          ← descendants_element sound (mem_branches_of_top among) isNode] at whole
        exact whole

/-- An element behind a comment, with text in it and behind it. -/
def behindComment : Document :=
  fragment [.element "div" [] [.text "a", .comment "c", .element "b" [] [.text "x"], .text "d"]]

/-- The text behind the element is behind the comment once the element is removed, and not part of
it.
-/
theorem remove_keeps_text_behind
    : behindComment.Reachable
      ∧ behindComment.IsNode (.element 3)
      ∧ behindComment.isAttached (.element 3) = true
      ∧ behindComment.root? ≠ some (.element 3)
      ∧ (∃ before after,
          [.element 1 "div" [], .text (.lead 1) "a", .element 3 "b" [], .text (.lead 3) "x",
              .text (.tail 3) "d"]
            = before ++ Node.element 3 "b" [] :: [.text (.lead 3) "x"] ++ after
          ∧ (behindComment.remove (.element 3)).fullText .document = textOf before ++ textOf after)
      ∧ (behindComment.remove (.element 3)).fullText .document = "ad"
      ∧ (behindComment.remove (.element 3)).isAttached (.text (.lead 3)) = false
      ∧ (behindComment.remove (.element 3)).outerMarkup (.element 3) = "<b>x</b>"
      ∧ (behindComment.remove (.element 3)).fullText (.element 3) = "x" := by
  have reachable : behindComment.Reachable := .fragment _
  have top : behindComment.top.id = 0 := by cbv
  have isNode : behindComment.IsNode (.element 3) := ⟨by cbv, by simp [top]⟩
  have attached : behindComment.isAttached (.element 3) = true := by cbv
  have noRoot : behindComment.root? = none := by cbv
  have notRoot : behindComment.root? ≠ some (.element 3) := by simp [noRoot]
  have known : behindComment.node? (.element 3) = some (.element 3 "b" []) := by cbv
  have below : behindComment.along Tree.Place.descendants (.element 3) = [.text (.lead 3) "x"] := by
    cbv
  have row : behindComment.along Tree.Place.descendants .document
      = [.element 1 "div" [], .text (.lead 1) "a", .element 3 "b" [], .text (.lead 3) "x",
        .text (.tail 3) "d"] := by
    cbv
  have branch : behindComment.branch? 3 = some (.mk 3 (.element "b" []) "x" [] "d") := by cbv
  have markup : behindComment.outerMarkup (.element 3) = "<b>x</b>" := by
    rw [outerMarkup, branch]
    simp only [Option.map_some, Option.getD_some, Branch.outerMarkup, Branch.written,
      Branch.writtenAmong]
    decide +kernel
  have text : behindComment.fullText (.element 3) = "x" := by cbv
  obtain ⟨node, found, outermost, loses, -, whole⟩ :=
    remove_keeps_rest reachable isNode attached (by simp) notRoot
  obtain rfl : .element 3 "b" [] = node := Option.some.inj (known.symm.trans found)
  obtain ⟨before, after, shape, left, -⟩ := loses .document outermost
  obtain ⟨detached, -, same, same'⟩ := whole 3 rfl
  rw [show Node.document.ref = .document from rfl, row, below] at shape
  rw [below] at detached
  exact ⟨reachable, isNode, attached, notRoot, ⟨before, after, shape, left⟩, by cbv,
    detached (.text (.lead 3) "x") (by simp), same.trans markup, same'.trans text⟩

end Document

end HtmlQuery
