import HtmlQuery.Proofs.Document.AxisPartition
import HtmlQuery.Proofs.Document.ExactRemoval
import HtmlQuery.Proofs.Tree.Ascent

/-! Three ways to tell where a node is: whether it is attached, which nodes are below the document, and
which ones are above the node. They agree in all states of a document, whatever was removed.
-/

namespace HtmlQuery

namespace Document

/-- A node stands in the tree, and in one place only: it is listed once below the document and once
among its parent's children, and the way up from it ends at the document.
-/
structure StandsOnce (document : Document) (ref : NodeRef) : Prop where
  descendant
    : ((document.along Tree.Place.descendants .document).map Node.ref).count ref = 1
  child
    : ∃ parent,
        document.parent? ref = some parent
        ∧ ((document.along Tree.Place.children parent).map Node.ref).count ref = 1
  rooted : (document.along Tree.Place.ancestors ref).getLast? = some .document

-----------------------------------------------------------------------------------------
-- Nodes of the tree
-----------------------------------------------------------------------------------------

/-- The nodes below the document are those of its tree but itself. -/
theorem along_descendants_document (document : Document)
    : document.along Tree.Place.descendants .document = document.nodesBelow :=
  along_of_place? (place?_document document) Tree.Place.descendants

/-- A place of the tree is the one that the name of its node leads to. -/
theorem place?_of_mem_places {document : Document} (sound : document.Sound)
    {place : Tree.Place Node} (member : place ∈ document.tree.places)
    : document.place? place.label.ref = some place :=
  place?_of_mem_trees sound List.mem_cons_self member

/-- Nodes below the document are attached. -/
theorem isAttached_of_mem {document : Document} (sound : document.Sound) {node : Node}
    (member : node ∈ document.nodesBelow)
    : document.isAttached node.ref = true := by
  obtain ⟨branch, inside, shows⟩ := shows_of_mem sound member
  have found := (Branch.findAmong?_eq_some sound.distinct_top).mpr inside
  cases shows with
  | element => simp [Node.ref, isAttached, Branch.find?_eq, found]
  | lead _ some => simp [Node.ref, isAttached, Branch.find?_eq, found, some]
  | tail some =>
      rcases Branch.mem_allAmong_cons.mp inside with rfl | below | nothing
      · exact (some sound.last).elim
      · have distinct := sound.distinct_top
        rw [Branch.numbers_cons, List.nodup_cons, Branch.numbers_nil, List.append_nil] at distinct
        have found := (Branch.findAmong?_eq_some distinct.2).mpr below
        simp [Node.ref, isAttached, found, some]
      · simp [Branch.allAmong] at nothing

/-- A node other than the document is attached just if it occurs below the document. -/
theorem isAttached_iff_mem {document : Document} (sound : document.Sound) {ref : NodeRef}
    (isNode : document.isAttached ref = true → document.IsNode ref) (other : ref ≠ .document)
    : document.isAttached ref = true ↔ ref ∈ document.nodesBelow.map Node.ref := by
  constructor
  · intro attached
    obtain ⟨node, member, rfl⟩ := mem_tree_of_attached sound (isNode attached) attached
    rw [preorder_tree] at member
    rcases List.mem_cons.mp member with rfl | below
    · exact (other rfl).elim
    · exact List.mem_map_of_mem below
  · intro member
    obtain ⟨node, below, rfl⟩ := List.mem_map.mp member
    exact isAttached_of_mem sound below

/-- A node below the document stands in one place. -/
theorem standsOnce_of_mem {document : Document} (sound : document.Sound) {node : Node}
    (member : node ∈ document.nodesBelow)
    : document.StandsOnce node.ref := by
  have distinct := nodup_refs sound
  have inside : node ∈ document.tree.preorder := by
    rw [preorder_tree]
    exact List.mem_cons_of_mem _ member
  obtain ⟨place, within, found, rfl⟩ := place?_of_mem sound inside
  have root : place.label ≠ .document := by
    intro same
    rw [preorder_tree, List.map_cons, List.nodup_cons] at distinct
    exact distinct.1 (List.mem_map.mpr ⟨place.label, member, by rw [same]⟩)
  rcases Tree.up?_of_mem_places within with rfl | ⟨around, within', above⟩
  · exact (root rfl).elim
  refine ⟨?_, ⟨around.label.ref, ?_, ?_⟩, ?_⟩
  · rw [along_descendants_document]
    refine List.count_eq_one_of_mem ?_ (List.mem_map_of_mem member)
    rw [preorder_tree] at distinct
    exact (List.nodup_cons.mp distinct).2
  · rw [parent?, found, Option.bind_some, Tree.Place.parent?_of_up? above]
    rfl
  · rw [along_of_place? (place?_of_mem_places sound within')]
    have fewer := (Tree.children_sublist_preorder within').map Node.ref
    refine List.count_eq_one_of_mem (distinct.sublist fewer) ?_
    exact List.mem_map_of_mem (Tree.Place.label_mem_children_of_up? above)
  · have last := Tree.getLast?_ancestors within
    rw [Tree.Place.ancestors_of_up? above, List.getLast?_cons_cons] at last
    rw [along_of_place? found, Tree.Place.ancestors_of_up? above, last]
    rfl

-----------------------------------------------------------------------------------------
-- Nodes that were taken out
-----------------------------------------------------------------------------------------

/-- The parts that were taken out don't hold the document. -/
theorem not_mem_detachedTrees {document : Document} (sound : document.Sound) {tree : Tree Node}
    (among : tree ∈ document.detachedTrees)
    : Node.document ∉ tree.preorder := by
  intro member
  obtain ⟨branch, -, shows⟩ := shows_of_mem_detached sound among member
  cases shows

/-- The way up from a detached node doesn't lead to the document. -/
theorem not_mem_ancestors_of_detached {document : Document} (sound : document.Sound)
    {ref : NodeRef} (detached : document.isAttached ref = false)
    : Node.document ∉ document.along Tree.Place.ancestors ref := by
  cases found : document.place? ref with
  | none => simp [along, found]
  | some place =>
      rw [along_of_place? found]
      intro above
      obtain ⟨tree, among, search⟩ := List.exists_of_findSome?_eq_some found
      have within : place ∈ tree.places := List.mem_of_find?_eq_some search
      obtain rfl : place.label.ref = ref := by
        simpa [Tree.Place.label] using List.find?_some search
      rcases List.mem_cons.mp among with rfl | among
      · have inside : place.label ∈ document.tree.preorder := by
          rw [← Tree.labels_places]
          exact List.mem_map_of_mem within
        rw [preorder_tree] at inside
        rcases List.mem_cons.mp inside with root | below
        · rw [root] at detached
          cases detached
        · rw [isAttached_of_mem sound below] at detached
          cases detached
      · exact not_mem_detachedTrees sound among (Tree.mem_preorder_of_mem_ancestors within above)

end Document

-----------------------------------------------------------------------------------------
-- Branches keep their kinds
-----------------------------------------------------------------------------------------

namespace Branch

/-- Whether a branch is one of some branches, or was one before texts or branches were taken away. -/
def StemsFrom (branches : List Branch) (branch : Branch) : Prop :=
  ∃ origin ∈ allAmong branches, origin.id = branch.id ∧ origin.kind = branch.kind

theorem StemsFrom.mono {branches more : List Branch} {branch : Branch}
    (stems : StemsFrom branches branch)
    (within : ∀ origin ∈ allAmong branches, origin ∈ allAmong more)
    : StemsFrom more branch := by
  obtain ⟨origin, member, same⟩ := stems
  exact ⟨origin, within origin member, same⟩

/-- What is left when branches are taken away was there before, by induction on the siblings. -/
theorem stemsFrom_pruneAmong (gone : Nat → Bool) {branch : Branch}
    : (front : String) → (branches : List Branch) →
      branch ∈ allAmong (pruneAmong gone front branches).2 → StemsFrom branches branch
  | front, [], member => by simp [pruneAmong, allAmong] at member
  | front, mk id kind lead children tail :: rest, member => by
      have below {branch : Branch} (stems : StemsFrom children branch)
          : StemsFrom (mk id kind lead children tail :: rest) branch :=
        stems.mono fun _ inside => mem_allAmong_cons.mpr (.inr (.inl inside))
      have behind {branch : Branch} (stems : StemsFrom rest branch)
          : StemsFrom (mk id kind lead children tail :: rest) branch :=
        stems.mono fun _ inside => mem_allAmong_cons.mpr (.inr (.inr inside))
      rw [pruneAmong] at member
      split at member
      · exact behind (stemsFrom_pruneAmong gone _ rest member)
      · rcases mem_allAmong_cons.mp member with rfl | member | member
        · exact ⟨_, mem_allAmong_cons.mpr (.inl rfl), rfl, rfl⟩
        · exact below (stemsFrom_pruneAmong gone lead children member)
        · exact behind (stemsFrom_pruneAmong gone tail rest member)

/-- What is left when slots are emptied was there before, by induction on the siblings. -/
theorem stemsFrom_blankAmong (emptied : Slot → Bool) {branch : Branch}
    : (branches : List Branch) → branch ∈ allAmong (blankAmong emptied branches) →
      StemsFrom branches branch
  | [], member => by simp [blankAmong, allAmong] at member
  | mk id kind lead children tail :: rest, member => by
      rw [blankAmong] at member
      rcases mem_allAmong_cons.mp member with rfl | member | member
      · exact ⟨_, mem_allAmong_cons.mpr (.inl rfl), rfl, rfl⟩
      · exact (stemsFrom_blankAmong emptied children member).mono fun _ inside =>
          mem_allAmong_cons.mpr (.inr (.inl inside))
      · exact (stemsFrom_blankAmong emptied rest member).mono fun _ inside =>
          mem_allAmong_cons.mpr (.inr (.inr inside))

theorem StemsFrom.trans {branches middle : List Branch} {branch : Branch}
    (first : ∀ origin ∈ allAmong middle, StemsFrom branches origin)
    (second : StemsFrom middle branch)
    : StemsFrom branches branch := by
  obtain ⟨between, member, id, kind⟩ := second
  obtain ⟨origin, inside, id', kind'⟩ := first between member
  exact ⟨origin, inside, id'.trans id, kind'.trans kind⟩

/-- What is left below a branch was there before. -/
theorem stemsFrom_prune_blank (gone : Nat → Bool) (emptied : Slot → Bool) {top branch : Branch}
    (member : branch ∈ allAmong [(top.blank emptied).prune gone])
    : StemsFrom [top] branch := by
  obtain ⟨id, kind, lead, children, tail⟩ := top
  rw [blank, prune_mk] at member
  rcases mem_allAmong_cons.mp member with rfl | below | nothing
  · exact ⟨_, mem_allAmong_cons.mpr (.inl rfl), rfl, rfl⟩
  · have stems := StemsFrom.trans (fun _ => stemsFrom_blankAmong emptied children)
      (stemsFrom_pruneAmong gone _ _ below)
    exact stems.mono fun _ inside => mem_allAmong_cons.mpr (.inr (.inl inside))
  · simp [allAmong] at nothing

end Branch

namespace Document

/-- A branch that is found by its number is a node just if it is an element. -/
theorem isSome_node?_element {document : Document} {branch : Branch}
    (found : document.branch? branch.id = some branch)
    : (document.node? (.element branch.id)).isSome = branch.kind.isElement := by
  rw [node?, found]
  obtain ⟨id, kind, lead, children, tail⟩ := branch
  cases kind <;> rfl

/-- What is attached after several removals is a node if it was one before. -/
theorem isNode_removeAll {document : Document} (sound : document.Sound) {ref : NodeRef}
    (isNode : document.IsNode ref) {refs : List NodeRef} (later : (document.removeAll refs).Sound)
    (attached : (document.removeAll refs).isAttached ref = true)
    : (document.removeAll refs).IsNode ref := by
  have top := top_removeAll_eq sound refs
  have same : (document.removeAll refs).top.id = document.top.id := by
    rw [top]
    obtain ⟨⟨id, kind, lead, children, tail⟩, isFragment, detached⟩ := document
    rfl
  refine ⟨?_, fun fragment => ?_⟩
  · cases ref with
    | document => rfl
    | text slot => rfl
    | element id =>
        rw [isAttached, Branch.find?_eq] at attached
        obtain ⟨branch, found⟩ := Option.isSome_iff_exists.mp attached
        obtain ⟨member, rfl, -⟩ := Branch.mem_numbers_of_findAmong? found
        have known := (Branch.findAmong?_eq_some later.distinct).mpr (mem_branches_of_top member)
        rw [top] at member
        obtain ⟨origin, inside, id, kind⟩ := Branch.stemsFrom_prune_blank _ _ member
        have before := (Branch.findAmong?_eq_some sound.distinct).mpr (mem_branches_of_top inside)
        have element := isNode.1
        rw [← id, isSome_node?_element before, kind] at element
        rwa [isSome_node?_element known]
  · rw [isFragment_removeAll] at fragment
    rw [same]
    exact isNode.2 fragment

-----------------------------------------------------------------------------------------
-- All states
-----------------------------------------------------------------------------------------

/--
Whatever nodes are removed from a document, each of its nodes is attached just if it occurs below the
document. It stands in one place then, and from a node that is not attached no way up leads to the
document.
-/
theorem isAttached_iff_below {document : Document} (reachable : document.Reachable) {ref : NodeRef}
    (isNode : document.IsNode ref) (other : ref ≠ .document) (refs : List NodeRef)
    : ((document.removeAll refs).isAttached ref = true
        ↔ ref ∈ ((document.removeAll refs).along Tree.Place.descendants .document).map Node.ref)
      ∧ ((document.removeAll refs).isAttached ref = true → (document.removeAll refs).StandsOnce ref)
      ∧ ((document.removeAll refs).isAttached ref = false →
        Node.document ∉ (document.removeAll refs).along Tree.Place.ancestors ref) := by
  have later := (reachable.removeAll refs).sound
  have occurs := isAttached_iff_mem later (isNode_removeAll reachable.sound isNode later) other
  rw [along_descendants_document]
  refine ⟨occurs, fun attached => ?_, not_mem_ancestors_of_detached later⟩
  obtain ⟨node, below, rfl⟩ := List.mem_map.mp (occurs.mp attached)
  exact standsOnce_of_mem later below

/-- The emptied slot in front of an element stands in the tree again once the element is removed, and
the way up from the removed element ends before the document.
-/
theorem standsOnce_refilled
    : between.Reachable
      ∧ between.IsNode (.text (.lead 1))
      ∧ between.IsNode (.element 2)
      ∧ (between.removeAll [.text (.lead 1), .element 2]).StandsOnce (.text (.lead 1))
      ∧ Node.document
        ∉ (between.removeAll [.text (.lead 1), .element 2]).along Tree.Place.ancestors
          (.element 2) := by
  have reachable : between.Reachable := .fragment _
  have top : between.top.id = 0 := by cbv
  have slot : between.IsNode (.text (.lead 1)) := ⟨by cbv, by simp⟩
  have element : between.IsNode (.element 2) := ⟨by cbv, by simp [top]⟩
  obtain ⟨-, stands, -⟩ := isAttached_iff_below reachable slot (by simp)
    [.text (.lead 1), .element 2]
  obtain ⟨-, -, away⟩ := isAttached_iff_below reachable element (by simp)
    [.text (.lead 1), .element 2]
  exact ⟨reachable, slot, element, stands (by cbv), away (by cbv)⟩

end Document

end HtmlQuery
