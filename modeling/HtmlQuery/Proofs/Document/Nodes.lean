import HtmlQuery.Document.Node
import HtmlQuery.Proofs.Document.Numbering
import HtmlQuery.Proofs.Tree.Order

/-! The nodes that branches show. Each node belongs to one branch, so nodes have different names, and
a node is found under its name exactly where it stands.
-/

namespace HtmlQuery

/-- The number of the branch that a node belongs to; the document belongs to none. -/
def NodeRef.owner? : NodeRef → Option Nat
  | document => none
  | element id => some id
  | text (.lead owner) => some owner
  | text (.tail owner) => some owner

/-- An element has a tag and attributes. -/
theorem Kind.exists_of_isElement {kind : Kind} (element : kind.isElement = true)
    : ∃ tag attributes, kind = .element tag attributes := by
  cases kind with
  | element tag attributes => exact ⟨tag, attributes, rfl⟩
  | comment | instruction => cases element

/-- The node of a slot, which holds some text. -/
theorem Slot.preorderAll_trees (slot : Slot) (content : String)
    : Tree.preorderAll (slot.trees content)
      = if content = "" then [] else [.text slot content] := by
  rw [Slot.trees]
  split <;> simp [Tree.preorderAll, Tree.preorder]

namespace Branch

/-- The nodes that a branch itself brings: an element and the texts in its two slots. -/
inductive Shows (branch : Branch) : Node → Prop
  | element {tag attributes} (kind : branch.kind = .element tag attributes)
    : Shows branch (.element branch.id tag attributes)
  | lead (element : branch.kind.isElement = true) (some : branch.lead ≠ "")
    : Shows branch (.text (.lead branch.id) branch.lead)
  | tail (some : branch.tail ≠ "") : Shows branch (.text (.tail branch.id) branch.tail)

/-- The nodes of some siblings in document order. -/
abbrev order (branches : List Branch) : List Node :=
  Tree.preorderAll (nodesAmong branches)

theorem order_nil : order [] = [] := by
  rw [order, nodesAmong, Tree.preorderAll]

/-- The nodes of an element are followed by the text behind it and the nodes of its siblings. -/
theorem order_element (id : Nat) (tag : String) (attributes : List Attribute) (lead : String)
    (children : List Branch) (tail : String) (rest : List Branch)
    : order (mk id (.element tag attributes) lead children tail :: rest)
      = .element id tag attributes
        :: (Tree.preorderAll (Slot.trees (.lead id) lead) ++ order children
          ++ (Tree.preorderAll (Slot.trees (.tail id) tail) ++ order rest)) := by
  rw [order, nodesAmong]
  simp only [Tree.preorderAll, Tree.preorder, Tree.preorderAll_append, List.cons_append]

/-- Comments and instructions only leave the text behind them. -/
theorem order_other (id : Nat) {kind : Kind} (other : kind.isElement = false) (lead : String)
    (children : List Branch) (tail : String) (rest : List Branch)
    : order (mk id kind lead children tail :: rest)
      = Tree.preorderAll (Slot.trees (.tail id) tail) ++ order rest := by
  cases kind with
  | element => cases other
  | comment =>
      rw [order, nodesAmong]
      · exact Tree.preorderAll_append _ _
      · rintro _ _ ⟨⟩
  | instruction =>
      rw [order, nodesAmong]
      · exact Tree.preorderAll_append _ _
      · rintro _ _ ⟨⟩

/-- An element and the nodes below it; other branches bring none but the text behind them. -/
def nodes (branch : Branch) : List Node :=
  match branch.kind with
  | .element tag attributes =>
      .element branch.id tag attributes :: Tree.preorderAll branch.nodesBelow
  | _ => []

theorem nodes_element (id : Nat) (tag : String) (attributes : List Attribute) (lead : String)
    (children : List Branch) (tail : String)
    : nodes (mk id (.element tag attributes) lead children tail)
      = .element id tag attributes
        :: (Tree.preorderAll (Slot.trees (.lead id) lead) ++ order children) :=
  congrArg (_ :: ·) (Tree.preorderAll_append ..)

theorem nodes_other {branch : Branch} (other : branch.kind.isElement = false)
    : branch.nodes = [] := by
  rw [nodes]
  cases kind : branch.kind <;> simp [kind, Kind.isElement] at other ⊢

/-- The text behind a branch is none of its nodes. -/
theorem nodes_tail (id : Nat) (kind : Kind) (lead : String) (children : List Branch)
    (tail tail' : String)
    : nodes (mk id kind lead children tail) = nodes (mk id kind lead children tail') :=
  rfl

/-- What a branch brings is followed by the text behind it and by the nodes of its siblings. -/
theorem order_cons (id : Nat) (kind : Kind) (lead : String) (children : List Branch) (tail : String)
    (rest : List Branch)
    : order (mk id kind lead children tail :: rest)
      = nodes (mk id kind lead children tail)
        ++ (Tree.preorderAll (Slot.trees (.tail id) tail) ++ order rest) := by
  cases kind with
  | element tag attributes => rw [order_element, nodes_element, List.cons_append]
  | comment | instruction => rw [order_other id rfl, nodes_other rfl, List.nil_append]

/-- The nodes of siblings are those of the first one and those of the others. -/
theorem order_cons_append (branch : Branch) (rest : List Branch)
    : order (branch :: rest) = order [branch] ++ order rest := by
  obtain ⟨id, kind, lead, children, tail⟩ := branch
  rw [order_cons, order_cons, order_nil, List.append_nil, List.append_assoc]

theorem nodes_of_kind {branch : Branch} {tag : String} {attributes : List Attribute}
    (kind : branch.kind = .element tag attributes)
    : branch.nodes = .element branch.id tag attributes :: Tree.preorderAll branch.nodesBelow := by
  rw [nodes, kind]

-----------------------------------------------------------------------------------------
-- Which nodes there are
-----------------------------------------------------------------------------------------

theorem mem_trees_iff {node : Node} {slot : Slot} {content : String}
    : node ∈ Tree.preorderAll (Slot.trees slot content)
      ↔ content ≠ "" ∧ node = .text slot content := by
  rw [Slot.preorderAll_trees]
  split <;> simp_all

/-- The nodes of some siblings are those that they and the branches below them bring, by induction on
the siblings.
-/
theorem mem_order_iff (node : Node)
    : (branches : List Branch) → (∀ branch ∈ allAmong branches, branch.Plain) →
      (node ∈ order branches ↔ ∃ branch ∈ allAmong branches, branch.Shows node)
  | [], _ => by simp [order_nil, allAmong]
  | mk id kind lead children tail :: rest, plain => by
      have own := plain (mk id kind lead children tail) (mem_allAmong_cons.mpr (.inl rfl))
      have below := mem_order_iff node children fun branch member =>
        plain branch (mem_allAmong_cons.mpr (.inr (.inl member)))
      have behind := mem_order_iff node rest fun branch member =>
        plain branch (mem_allAmong_cons.mpr (.inr (.inr member)))
      have parts
          : (∃ branch ∈ allAmong (mk id kind lead children tail :: rest), branch.Shows node)
            ↔ (mk id kind lead children tail).Shows node
              ∨ (∃ branch ∈ allAmong children, branch.Shows node)
              ∨ ∃ branch ∈ allAmong rest, branch.Shows node := by
        simp only [mem_allAmong_cons, or_and_right, exists_or, exists_eq_left, Branch.children]
      rw [parts, ← below, ← behind]
      cases element : kind.isElement with
      | false =>
          have nothing : order children = [] := by
            rw [show children = [] from (own element).2, order_nil]
          rw [order_other id element, List.mem_append, mem_trees_iff, nothing]
          constructor
          · rintro (⟨some, rfl⟩ | member)
            · exact .inl (.tail some)
            · exact .inr (.inr member)
          · rintro (shows | member | member)
            · cases shows with
              | element same => simp [show kind = _ from same, Kind.isElement] at element
              | lead same => exact absurd (same.symm.trans element) (by decide)
              | tail some => exact .inl ⟨some, rfl⟩
            · cases member
            · exact .inr member
      | true =>
          obtain ⟨tag, attributes, rfl⟩ := Kind.exists_of_isElement element
          simp only [order_element, List.mem_cons, List.mem_append, mem_trees_iff]
          constructor
          · rintro (rfl | (⟨some, rfl⟩ | member) | ⟨some, rfl⟩ | member)
            · exact .inl (.element rfl)
            · exact .inl (.lead rfl some)
            · exact .inr (.inl member)
            · exact .inl (.tail some)
            · exact .inr (.inr member)
          · rintro (shows | member | member)
            · cases shows with
              | element same =>
                  cases same
                  exact .inl rfl
              | lead _ some => exact .inr (.inl (.inl ⟨some, rfl⟩))
              | tail some => exact .inr (.inr (.inl ⟨some, rfl⟩))
            · exact .inr (.inl (.inr member))
            · exact .inr (.inr (.inr member))

-----------------------------------------------------------------------------------------
-- Names
-----------------------------------------------------------------------------------------

/-- A name occurs at most as often as the number of the branch it belongs to, by induction on the
siblings.
-/
theorem count_ref_le (ref : NodeRef)
    : (branches : List Branch) →
      ((order branches).map Node.ref).count ref
        ≤ (ref.owner?.map fun owner => (numbers branches).count owner).getD 0
  | [] => by simp [order_nil]
  | mk id kind lead children tail :: rest => by
      have below := count_ref_le ref children
      have behind := count_ref_le ref rest
      have texts (slot : Slot) (content : String)
          : ((Tree.preorderAll (Slot.trees slot content)).map Node.ref).count ref
            ≤ if .text slot = ref then 1 else 0 := by
        rw [Slot.preorderAll_trees]
        split
        · simp
        · simp [Node.ref, List.count_cons]
      have first := texts (.lead id) lead
      have last := texts (.tail id) tail
      rw [numbers_cons]
      simp only [Branch.id, Branch.children]
      cases element : kind.isElement with
      | false =>
          rw [order_other id element, List.map_append, List.count_append]
          rcases ref with - | owner | ⟨owner | owner⟩ <;>
            simp [NodeRef.owner?, List.count_cons] at below behind first last ⊢ <;>
            omega
      | true =>
          obtain ⟨tag, attributes, rfl⟩ := Kind.exists_of_isElement element
          rw [order_element]
          simp only [List.map_cons, List.map_append, List.count_cons, List.count_append]
          rcases ref with - | owner | ⟨owner | owner⟩ <;>
            simp [NodeRef.owner?, Node.ref] at below behind first last ⊢ <;>
            omega

/-- Different nodes of some siblings have different names. -/
theorem nodup_refs_order {branches : List Branch} (distinct : (numbers branches).Nodup)
    : ((order branches).map Node.ref).Nodup := by
  rw [List.nodup_iff_count_le_one]
  intro ref
  have bound := count_ref_le ref branches
  cases owner : ref.owner? with
  | none => simp only [owner, Option.map_none, Option.getD_none] at bound; omega
  | some owner' =>
      have once := List.nodup_iff_count_le_one.mp distinct owner'
      simp only [owner, Option.map_some, Option.getD_some] at bound
      omega

/-- The document is none of the nodes that branches bring. -/
theorem document_notMem_order (branches : List Branch)
    : .document ∉ (order branches).map Node.ref :=
  List.count_eq_zero.mp (Nat.le_zero.mp (count_ref_le .document branches))

end Branch

-----------------------------------------------------------------------------------------
-- The nodes of a document
-----------------------------------------------------------------------------------------

namespace Document

/-- All nodes of the tree but the document, in document order. -/
abbrev nodesBelow (document : Document) : List Node :=
  Tree.preorderAll document.tree.children

theorem preorder_tree (document : Document)
    : document.tree.preorder = .document :: document.nodesBelow := by
  rw [tree, Tree.preorder]
  rfl

/-- The nodes of the tree are those below the top, and the top itself in a complete document. -/
theorem nodesBelow_eq {document : Document} (sound : document.Sound)
    : document.nodesBelow
      = if document.isFragment then Tree.preorderAll document.top.nodesBelow
        else document.top.nodes := by
  obtain ⟨⟨id, kind, lead, children, tail⟩, isFragment, detached⟩ := document
  obtain rfl : tail = "" := sound.last
  cases isFragment with
  | true => rfl
  | false =>
      have whole := Branch.order_cons id kind lead children "" []
      simp only [Branch.order_nil, Slot.preorderAll_trees, if_true, List.append_nil] at whole
      exact whole

/-- The holder of a fragment's nodes brings a node of its own, which is not part of the tree. -/
theorem order_top {document : Document} (sound : document.Sound)
    : ∃ holder,
        (∀ node ∈ holder, document.isFragment = true ∧ node.ref = .element document.top.id)
        ∧ Branch.order [document.top] = holder ++ document.nodesBelow := by
  obtain ⟨⟨id, kind, lead, children, tail⟩, isFragment, detached⟩ := document
  cases isFragment with
  | false => exact ⟨[], by simp, rfl⟩
  | true =>
      obtain ⟨-, -, element, last⟩ := sound
      obtain ⟨tag, attributes, rfl⟩ : ∃ tag attributes, kind = .element tag attributes :=
        Kind.exists_of_isElement element
      obtain rfl : tail = "" := last
      refine ⟨[.element id tag attributes], ?_, ?_⟩
      · intro node member
        obtain rfl := List.mem_singleton.mp member
        exact ⟨rfl, rfl⟩
      · rw [Branch.order_element, Branch.order_nil]
        simp only [nodesBelow, tree, if_true, Tree.children, Branch.nodesBelow,
          Tree.preorderAll_append, Slot.preorderAll_trees, List.append_nil, List.singleton_append,
          Branch.id, Branch.lead, Branch.children]

/-- Different nodes of the tree and of the parts taken out have different names. -/
theorem nodup_refs_trees {document : Document} (sound : document.Sound)
    : ((Tree.preorderAll (document.tree :: document.detachedTrees)).map Node.ref).Nodup := by
  obtain ⟨holder, -, whole⟩ := order_top sound
  have below : (document.nodesBelow ++ Branch.order document.detached).Sublist
      (Branch.order document.branches) := by
    rw [branches, Branch.order_cons_append, whole, List.append_assoc]
    exact List.sublist_append_right _ _
  have named := below.map Node.ref
  rw [Tree.preorderAll, preorder_tree, List.cons_append, List.map_cons, List.nodup_cons]
  exact ⟨fun root => Branch.document_notMem_order _ (named.subset root),
    (Branch.nodup_refs_order sound.distinct).sublist named⟩

/-- Different nodes of the tree, or of one of the parts taken out, have different names. -/
theorem nodup_refs_of_mem {document : Document} (sound : document.Sound) {tree : Tree Node}
    (among : tree ∈ document.tree :: document.detachedTrees)
    : (tree.preorder.map Node.ref).Nodup :=
  (nodup_refs_trees sound).sublist ((Tree.sublist_preorderAll among).map Node.ref)

theorem nodup_refs {document : Document} (sound : document.Sound)
    : (document.tree.preorder.map Node.ref).Nodup :=
  nodup_refs_of_mem sound List.mem_cons_self

/-- A node is known under its own name. -/
theorem ref_of_node? {document : Document} {ref : NodeRef} {node : Node}
    (found : document.node? ref = some node)
    : node.ref = ref := by
  cases ref with
  | document =>
      cases found
      rfl
  | element id =>
      rw [node?] at found
      split at found
      · cases found
        rfl
      · cases found
  | text slot =>
      cases found
      rfl

/-- What a branch brings is the node of its name. -/
theorem node?_of_shows {document : Document} (sound : document.Sound) {branch : Branch}
    (member : branch ∈ Branch.allAmong document.branches) {node : Node} (shows : branch.Shows node)
    : document.node? node.ref = some node := by
  have found := (Branch.findAmong?_eq_some sound.distinct).mpr member
  cases shows with
  | element kind =>
      obtain ⟨id, _, lead, children, tail⟩ := branch
      obtain rfl : _ = Kind.element _ _ := kind
      simp [node?, Node.ref, branch?, found]
  | lead => simp [node?, Node.ref, content, branch?, found]
  | tail => simp [node?, Node.ref, content, branch?, found]

/-- The branches at or below the top are among all branches. -/
theorem mem_branches_of_top {document : Document} {branch : Branch}
    (member : branch ∈ Branch.allAmong [document.top])
    : branch ∈ Branch.allAmong document.branches := by
  rcases Branch.mem_allAmong_cons.mp member with rfl | member | member
  · exact Branch.mem_allAmong_cons.mpr (.inl rfl)
  · exact Branch.mem_allAmong_cons.mpr (.inr (.inl member))
  · simp [Branch.allAmong] at member

/-- Every node of the tree but the document is brought by a branch at or below the top. -/
theorem shows_of_mem {document : Document} (sound : document.Sound) {node : Node}
    (member : node ∈ document.nodesBelow)
    : ∃ branch ∈ Branch.allAmong [document.top], branch.Shows node := by
  obtain ⟨holder, -, whole⟩ := order_top sound
  refine (Branch.mem_order_iff node [document.top] fun branch member =>
    sound.plain branch (mem_branches_of_top member)).mp ?_
  rw [whole]
  exact List.mem_append_right _ member

/-- Every node of the parts that were taken out is brought by a branch there. -/
theorem shows_of_mem_detached {document : Document} (sound : document.Sound) {tree : Tree Node}
    (among : tree ∈ document.detachedTrees) {node : Node} (member : node ∈ tree.preorder)
    : ∃ branch ∈ Branch.allAmong document.branches, branch.Shows node := by
  have plain : ∀ branch ∈ Branch.allAmong document.detached, branch.Plain := fun branch inside =>
    sound.plain branch (Branch.mem_allAmong_cons.mpr (.inr (.inr inside)))
  obtain ⟨branch, inside, shows⟩ := (Branch.mem_order_iff node document.detached plain).mp
    (Tree.mem_preorderAll.mpr ⟨tree, among, member⟩)
  exact ⟨branch, Branch.mem_allAmong_cons.mpr (.inr (.inr inside)), shows⟩

-----------------------------------------------------------------------------------------
-- Names and places
-----------------------------------------------------------------------------------------

/-- Whether a name belongs to a node; comments, instructions and the holder of a fragment's nodes are
none.
-/
def IsNode (document : Document) (ref : NodeRef) : Prop :=
  (document.node? ref).isSome = true
  ∧ (document.isFragment = true → ref ≠ .element document.top.id)

/-- A branch at or below the top brings nodes of the tree, unless it is the holder of a fragment. -/
theorem mem_nodesBelow_of_shows {document : Document} (sound : document.Sound) {branch : Branch}
    (member : branch ∈ Branch.allAmong [document.top]) {node : Node} (shows : branch.Shows node)
    (other : document.isFragment = true → node.ref ≠ .element document.top.id)
    : node ∈ document.nodesBelow := by
  obtain ⟨holder, outside, whole⟩ := order_top sound
  have ordered := (Branch.mem_order_iff node [document.top] fun branch member =>
    sound.plain branch (mem_branches_of_top member)).mpr ⟨branch, member, shows⟩
  rw [whole] at ordered
  rcases List.mem_append.mp ordered with held | below
  · obtain ⟨isFragment, same⟩ := outside node held
    exact (other isFragment same).elim
  · exact below

/-- Nodes that are attached are in the tree. -/
theorem mem_tree_of_attached {document : Document} (sound : document.Sound) {ref : NodeRef}
    (isNode : document.IsNode ref) (attached : document.isAttached ref = true)
    : ∃ node ∈ document.tree.preorder, node.ref = ref := by
  rw [preorder_tree]
  cases ref with
  | document => exact ⟨.document, List.mem_cons_self, rfl⟩
  | element id =>
      simp only [isAttached, Branch.find?_eq] at attached
      obtain ⟨branch, found⟩ := Option.isSome_iff_exists.mp attached
      obtain ⟨member, rfl, -⟩ := Branch.mem_numbers_of_findAmong? found
      have known := (Branch.findAmong?_eq_some sound.distinct).mpr (mem_branches_of_top member)
      obtain ⟨some, other⟩ := isNode
      obtain ⟨id, kind, lead, children, tail⟩ := branch
      rw [node?, branch?, known] at some
      cases kind with
      | element tag attributes =>
          have below := mem_nodesBelow_of_shows sound member (.element rfl) other
          exact ⟨_, List.mem_cons_of_mem _ below, rfl⟩
      | comment => cases some
      | instruction => cases some
  | text slot =>
      cases slot with
      | lead owner =>
          simp only [isAttached, Branch.find?_eq] at attached
          cases found : Branch.findAmong? owner [document.top] with
          | none => simp [found] at attached
          | some branch =>
              obtain ⟨member, rfl, -⟩ := Branch.mem_numbers_of_findAmong? found
              have some : branch.lead ≠ "" := by simpa [found] using attached
              have element : branch.kind.isElement = true := by
                by_contra other
                have empty := sound.plain branch (mem_branches_of_top member) (by simpa using other)
                exact some empty.1
              have below := mem_nodesBelow_of_shows sound member (.lead element some) (by simp [Node.ref])
              exact ⟨_, List.mem_cons_of_mem _ below, rfl⟩
      | tail owner =>
          simp only [isAttached] at attached
          cases found : Branch.findAmong? owner document.top.children with
          | none => simp [found] at attached
          | some branch =>
              obtain ⟨member, rfl, -⟩ := Branch.mem_numbers_of_findAmong? found
              have some : branch.tail ≠ "" := by simpa [found] using attached
              have below := mem_nodesBelow_of_shows sound
                (Branch.mem_allAmong_cons.mpr (.inr (.inl member))) (.tail some) (by simp [Node.ref])
              exact ⟨_, List.mem_cons_of_mem _ below, rfl⟩

/-- Each place of the tree and of the parts taken out is the one that the name of its node leads to. -/
theorem place?_of_mem_trees {document : Document} (sound : document.Sound) {tree : Tree Node}
    (among : tree ∈ document.tree :: document.detachedTrees) {place : Tree.Place Node}
    (member : place ∈ tree.places)
    : document.place? place.label.ref = some place :=
  Tree.findSome?_of_mem_places (nodup_refs_trees sound) among member

/-- A node of the tree has a place there, and its name leads to it. -/
theorem place?_of_mem {document : Document} (sound : document.Sound) {node : Node}
    (member : node ∈ document.tree.preorder)
    : ∃ place ∈ document.tree.places, document.place? node.ref = some place
        ∧ place.label = node := by
  rw [← Tree.labels_places] at member
  obtain ⟨place, inside, rfl⟩ := List.mem_map.mp member
  exact ⟨place, inside, place?_of_mem_trees sound List.mem_cons_self inside, rfl⟩

/-- The nodes of the tree and of the detached parts are found by their names. -/
theorem node?_of_mem_preorder {document : Document} (sound : document.Sound) {tree : Tree Node}
    (among : tree ∈ document.tree :: document.detachedTrees) {node : Node}
    (member : node ∈ tree.preorder)
    : document.node? node.ref = some node := by
  rcases List.mem_cons.mp among with rfl | among
  · rw [preorder_tree] at member
    rcases List.mem_cons.mp member with rfl | member
    · rfl
    · obtain ⟨branch, member, shows⟩ := shows_of_mem sound member
      exact node?_of_shows sound (mem_branches_of_top member) shows
  · obtain ⟨branch, member, shows⟩ := shows_of_mem_detached sound among member
    exact node?_of_shows sound member shows

/-- The place of a name is in one of the trees, where the node of that name stands. -/
theorem exists_tree_of_place? {document : Document} {ref : NodeRef} {place : Tree.Place Node}
    (found : document.place? ref = some place)
    : place.label.ref = ref
      ∧ ∃ tree ∈ document.tree :: document.detachedTrees, place ∈ tree.places := by
  obtain ⟨tree, among, search⟩ := List.exists_of_findSome?_eq_some found
  refine ⟨?_, tree, among, List.mem_of_find?_eq_some search⟩
  simpa [Tree.Place.label] using List.find?_some search

/-- What stands at the place of a name is the node of that name. -/
theorem node?_of_place? {document : Document} (sound : document.Sound) {ref : NodeRef}
    {place : Tree.Place Node} (found : document.place? ref = some place)
    : document.node? ref = some place.label := by
  obtain ⟨rfl, tree, among, within⟩ := exists_tree_of_place? found
  apply node?_of_mem_preorder sound among
  rw [← Tree.labels_places]
  exact List.mem_map_of_mem within

end Document

end HtmlQuery
