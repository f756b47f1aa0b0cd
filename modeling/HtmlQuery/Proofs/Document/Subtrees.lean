import HtmlQuery.Proofs.Document.Attachment
import HtmlQuery.Proofs.Tree.Descent

/-! The subtrees of a document and of the parts taken out of it. Below an element stand the nodes of
its branch, whether the element is attached or not, and below a text there is nothing.
-/

namespace HtmlQuery

-----------------------------------------------------------------------------------------
-- Trees of branches
-----------------------------------------------------------------------------------------

/-- A tree that some branches bring: a text with nothing below it, or an element with the nodes below
its branch.
-/
inductive Branch.Brings (branches : List Branch) : Tree Node → Prop
  | text (slot : Slot) (content : String) : Brings branches (.node (.text slot content) [])
  | element {branch tag attributes} (member : branch ∈ allAmong branches)
    (kind : branch.kind = .element tag attributes)
    : Brings branches (.node (.element branch.id tag attributes) branch.nodesBelow)

namespace Branch

variable {branches more : List Branch}

theorem Brings.mono (within : ∀ branch ∈ allAmong branches, branch ∈ allAmong more)
    {tree : Tree Node} (brings : Brings branches tree)
    : Brings more tree := by
  cases brings with
  | text slot content => exact .text slot content
  | element member kind => exact .element (within _ member) kind

theorem brings_of_mem_trees {slot : Slot} {content : String}
    : ∀ tree ∈ slot.trees content, Brings branches tree := by
  rw [Slot.trees]
  split
  · simp
  · rw [List.forall_mem_singleton]
    exact .text slot content

/-- Siblings bring all of their trees, by induction on the siblings. -/
theorem brings_of_mem_nodesAmong
    : (branches : List Branch) → ∀ tree ∈ nodesAmong branches, Brings branches tree
  | [] => by simp [nodesAmong]
  | mk id kind lead children tail :: rest => by
      have behind : ∀ tree ∈ Slot.trees (.tail id) tail ++ nodesAmong rest,
          Brings (mk id kind lead children tail :: rest) tree :=
        List.forall_mem_append.mpr ⟨brings_of_mem_trees, fun tree member =>
          (brings_of_mem_nodesAmong rest tree member).mono fun _ inside =>
            mem_allAmong_cons.mpr (.inr (.inr inside))⟩
      cases kind with
      | element tag attributes =>
          rw [nodesAmong, List.forall_mem_cons]
          exact ⟨.element (mem_allAmong_cons.mpr (.inl rfl)) rfl, behind⟩
      | comment | instruction => simpa only [nodesAmong] using behind

theorem brings_of_mem_nodesBelow {branch : Branch}
    : ∀ tree ∈ branch.nodesBelow, Brings branch.children tree :=
  List.forall_mem_append.mpr ⟨brings_of_mem_trees, brings_of_mem_nodesAmong branch.children⟩

/-- What is below the root of a tree is brought by the same branches. -/
theorem Brings.children (label : Node) (trees : List (Tree Node))
    (brings : Brings branches (.node label trees))
    : ∀ tree ∈ trees, Brings branches tree := by
  cases brings with
  | text => simp
  | element member kind =>
      exact fun tree inside => (brings_of_mem_nodesBelow tree inside).mono fun _ below =>
        mem_allAmong_of_below below branches member

end Branch

-----------------------------------------------------------------------------------------
-- Places of elements
-----------------------------------------------------------------------------------------

namespace Document

variable {document : Document}

/-- What stands below the document is brought by its branches. -/
theorem brings_of_mem_tree (document : Document)
    : ∀ tree ∈ document.tree.children, Branch.Brings document.branches tree := by
  intro tree inside
  rw [Document.tree, Tree.children] at inside
  split at inside
  · refine (Branch.brings_of_mem_nodesBelow tree inside).mono fun branch below => ?_
    exact Branch.mem_allAmong_cons.mpr (.inr (.inl below))
  · exact (Branch.brings_of_mem_nodesAmong _ tree inside).mono fun _ => mem_branches_of_top

/-- All that stands in the tree and in the parts taken out, the document aside, is brought by its
branches.
-/
theorem brings_of_place? {ref : NodeRef} {place : Tree.Place Node}
    (found : document.place? ref = some place) (other : ref ≠ .document)
    : Branch.Brings document.branches place.tree := by
  obtain ⟨tree, among, search⟩ := List.exists_of_findSome?_eq_some found
  have member : place ∈ tree.places := List.mem_of_find?_eq_some search
  obtain rfl : place.label.ref = ref := by
    simpa [Tree.Place.label] using List.find?_some search
  rcases List.mem_cons.mp among with rfl | among
  · have below := document.brings_of_mem_tree
    rw [Document.tree, Tree.places, Tree.placesWithin] at member
    rcases List.mem_cons.mp member with rfl | member
    · exact (other rfl).elim
    · exact Tree.holds_of_mem_placesAmong Branch.Brings.children below member
  · refine Tree.holds_of_mem_placesWithin Branch.Brings.children ?_ member
    refine (Branch.brings_of_mem_nodesAmong _ tree among).mono fun branch inside => ?_
    exact Branch.mem_allAmong_cons.mpr (.inr (.inr inside))

/-- From texts there is no way down. -/
theorem along_descendants_text (document : Document) (slot : Slot)
    : document.along Tree.Place.descendants (.text slot) = [] := by
  cases found : document.place? (.text slot) with
  | none => simp [along, found]
  | some place =>
      obtain ⟨tree, -, search⟩ := List.exists_of_findSome?_eq_some found
      have named := List.find?_some search
      have brings := brings_of_place? found (by simp)
      rw [along_of_place? found]
      obtain ⟨tree, frames⟩ := place
      cases brings with
      | text slot content => rw [Tree.Place.descendants, Tree.children, Tree.preorderAll]
      | element => simp [Tree.label, Node.ref] at named

/-- Every element has a place, in the tree or in a part taken out of it. -/
theorem exists_place?_element (sound : document.Sound) {branch : Branch}
    (member : branch ∈ Branch.allAmong document.branches)
    (isNode : document.IsNode (.element branch.id))
    : ∃ place, document.place? (.element branch.id) = some place := by
  have element := isNode.1
  rw [isSome_node?_element ((Branch.findAmong?_eq_some sound.distinct).mpr member)] at element
  obtain ⟨tag, attributes, kind⟩ := Kind.exists_of_isElement element
  have shows : branch.Shows (.element branch.id tag attributes) := .element kind
  suffices some : ∃ tree ∈ document.tree :: document.detachedTrees,
      .element branch.id tag attributes ∈ tree.preorder by
    obtain ⟨tree, among, inside⟩ := some
    rw [← Tree.labels_places] at inside
    obtain ⟨place, within, same⟩ := List.mem_map.mp inside
    refine Option.isSome_iff_exists.mp (List.findSome?_isSome_iff.mpr ⟨tree, among, ?_⟩)
    refine List.find?_isSome.mpr ⟨place, within, ?_⟩
    simp [show place.tree.label = _ from same, Node.ref]
  have whole : Branch.allAmong document.branches
      = Branch.allAmong [document.top] ++ Branch.allAmong document.detached := by
    obtain ⟨⟨id, kind, lead, children, tail⟩, isFragment, detached⟩ := document
    simp [branches, Branch.allAmong]
  rw [whole] at member
  rcases List.mem_append.mp member with member | member
  · refine ⟨document.tree, List.mem_cons_self, ?_⟩
    rw [preorder_tree]
    exact List.mem_cons_of_mem _ (mem_nodesBelow_of_shows sound member shows isNode.2)
  · have plain : ∀ branch ∈ Branch.allAmong document.detached, branch.Plain :=
      fun branch inside => sound.plain branch (Branch.mem_allAmong_cons.mpr (.inr (.inr inside)))
    obtain ⟨tree, among, inside⟩ := Tree.mem_preorderAll.mp
      ((Branch.mem_order_iff _ _ plain).mpr ⟨branch, member, shows⟩)
    exact ⟨tree, List.mem_cons_of_mem _ among, inside⟩

/-- At the place of an element stand the nodes of its branch. -/
theorem exists_place?_nodesBelow (sound : document.Sound) {branch : Branch}
    (member : branch ∈ Branch.allAmong document.branches)
    (isNode : document.IsNode (.element branch.id))
    : ∃ place,
        document.place? (.element branch.id) = some place
        ∧ place.tree.children = branch.nodesBelow := by
  obtain ⟨place, found⟩ := exists_place?_element sound member isNode
  have known := node?_of_place? sound found
  have brings := brings_of_place? found (by simp)
  refine ⟨place, found, ?_⟩
  obtain ⟨tree, frames⟩ := place
  cases brings with
  | text slot content =>
      have same : NodeRef.text slot = .element branch.id :=
        ref_of_node? known
      cases same
  | element member' kind =>
      rename_i other tag attributes
      obtain same : other.id = branch.id := NodeRef.element.inj (ref_of_node? known)
      rw [List.inj_on_of_nodup_map sound.distinct member' member same]
      rfl

/-- Below an element are the nodes of its branch. -/
theorem descendants_element (sound : document.Sound) {branch : Branch}
    (member : branch ∈ Branch.allAmong document.branches)
    (isNode : document.IsNode (.element branch.id))
    : document.along Tree.Place.descendants (.element branch.id)
      = Tree.preorderAll branch.nodesBelow := by
  obtain ⟨place, found, below⟩ := exists_place?_nodesBelow sound member isNode
  rw [along_of_place? found, Tree.Place.descendants, below]

end Document

end HtmlQuery
