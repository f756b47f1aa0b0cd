import HtmlQuery.Css.Match
import HtmlQuery.Proofs.Document.Nodes

/-! What is left of the nodes of some siblings when one of them is removed, at any depth. The text
behind a removed element moves to another slot, but not past any other text or element.
-/

namespace HtmlQuery

open Css (elementsOf)

/-- The content of a text; other nodes have none of their own. -/
def Node.content : Node → String
  | .text _ content => content
  | _ => ""

/-- The contents of the texts among some nodes, one behind the other. -/
def textOf (nodes : List Node) : String :=
  String.join (nodes.map Node.content)

@[simp] theorem textOf_nil : textOf [] = "" := rfl

@[simp] theorem textOf_cons (node : Node) (nodes : List Node)
    : textOf (node :: nodes) = node.content ++ textOf nodes := by
  simp [textOf]

@[simp] theorem textOf_append (left right : List Node)
    : textOf (left ++ right) = textOf left ++ textOf right := by
  simp [textOf]

@[simp] theorem Css.elementsOf_append (left right : List Node)
    : elementsOf (left ++ right) = elementsOf left ++ elementsOf right :=
  List.filter_append ..

@[simp] theorem textOf_trees (slot : Slot) (content : String)
    : textOf (Tree.preorderAll (slot.trees content)) = content := by
  rw [Slot.preorderAll_trees]
  split
  · rename_i empty
    simp [empty]
  · simp [Node.content]

@[simp] theorem elementsOf_trees (slot : Slot) (content : String)
    : elementsOf (Tree.preorderAll (slot.trees content)) = [] := by
  rw [Slot.preorderAll_trees]
  split <;> rfl

/-- Whether the texts and elements among some nodes are those of a row from which a part was removed,
in the same order. Texts may have been joined.
-/
def Lacks (removed row left : List Node) : Prop :=
  ∃ before after,
    row = before ++ removed ++ after
    ∧ textOf left = textOf before ++ textOf after
    ∧ elementsOf left = elementsOf before ++ elementsOf after

/-- What stands around a row stays there. -/
theorem Lacks.within {removed row left : List Node} (lacks : Lacks removed row left)
    (front back : List Node)
    : Lacks removed (front ++ row ++ back) (front ++ left ++ back) := by
  obtain ⟨before, after, rfl, text, elements⟩ := lacks
  exact ⟨front ++ before, after ++ back, by simp, by simp [text, String.append_assoc],
    by simp [elements]⟩

/-- An element is known by its name among the elements. -/
theorem element_mem_refs_iff {nodes : List Node} {id : Nat}
    : .element id ∈ nodes.map Node.ref ↔ .element id ∈ (elementsOf nodes).map Node.ref := by
  simp only [List.mem_map, elementsOf, List.mem_filter]
  constructor
  · rintro ⟨node, member, same⟩
    refine ⟨node, ⟨member, ?_⟩, same⟩
    cases node <;> cases same
    rfl
  · rintro ⟨node, ⟨member, -⟩, same⟩
    exact ⟨node, member, same⟩

/-- The elements that are left of a row are those outside of the removed part. -/
theorem Lacks.element_mem_iff {removed row left : List Node} (lacks : Lacks removed row left)
    (distinct : (row.map Node.ref).Nodup) (id : Nat)
    : .element id ∈ left.map Node.ref
      ↔ .element id ∈ row.map Node.ref ∧ .element id ∉ removed.map Node.ref := by
  obtain ⟨before, after, rfl, -, elements⟩ := lacks
  simp only [List.map_append] at distinct ⊢
  rw [List.append_assoc, List.nodup_append', List.nodup_append'] at distinct
  obtain ⟨-, ⟨-, -, behind⟩, front⟩ := distinct
  rw [element_mem_refs_iff, elements, List.map_append, List.mem_append, ← element_mem_refs_iff,
    ← element_mem_refs_iff]
  simp only [List.mem_append]
  constructor
  · rintro (member | member)
    · exact ⟨.inl (.inl member), fun gone => front member (List.mem_append_left _ gone)⟩
    · exact ⟨.inr member, fun gone => behind gone member⟩
  · rintro ⟨(member | gone) | member, kept⟩
    · exact .inl member
    · exact (kept gone).elim
    · exact .inr member

/-- A node of a row in which no name is repeated is removed by its name. -/
theorem lacks_filter {row : List Node} (distinct : (row.map Node.ref).Nodup) {node : Node}
    (member : node ∈ row)
    : Lacks [node] row (row.filter fun other => other.ref != node.ref) := by
  obtain ⟨before, after, rfl⟩ := List.append_of_mem member
  rw [List.map_append, List.map_cons, List.nodup_middle, List.nodup_cons, List.mem_append,
    not_or] at distinct
  have kept {others : List Node} (absent : node.ref ∉ others.map Node.ref)
      : others.filter (fun other => other.ref != node.ref) = others := by
    refine List.filter_eq_self.mpr fun other inside => bne_iff_ne.mpr fun same => absent ?_
    exact same ▸ List.mem_map_of_mem inside
  refine ⟨before, after, by simp, ?_⟩
  simp [kept distinct.1.1, kept distinct.1.2]

namespace Branch

-----------------------------------------------------------------------------------------
-- Texts of nodes
-----------------------------------------------------------------------------------------

mutual

/-- The text of a branch is that of its nodes, by induction on what is below. -/
theorem fullText_eq_textOf
    : (branch : Branch) → (∀ below ∈ allAmong branch.children, below.Plain) →
      branch.fullText = textOf branch.nodes
  | mk id (.element tag attributes) lead children tail, plain => by
      rw [fullText, nodes_element, fullTextAmong_eq_textOf children plain]
      simp [Node.content]
  | mk id (.comment _) lead children tail, _ => by
      rw [fullText, nodes_other rfl, textOf_nil]
      rintro _ _ ⟨⟩
  | mk id (.instruction _ _) lead children tail, _ => by
      rw [fullText, nodes_other rfl, textOf_nil]
      rintro _ _ ⟨⟩

/-- The text of some siblings is that of their nodes, by induction on the siblings. -/
theorem fullTextAmong_eq_textOf
    : (branches : List Branch) → (∀ branch ∈ allAmong branches, branch.Plain) →
      fullTextAmong branches = textOf (order branches)
  | [], _ => by rw [fullTextAmong, order_nil, textOf_nil]
  | mk id kind lead children tail :: rest, plain => by
      have own := fullText_eq_textOf (mk id kind lead children tail) fun branch member =>
        plain branch (mem_allAmong_cons.mpr (.inr (.inl member)))
      have behind := fullTextAmong_eq_textOf rest fun branch member =>
        plain branch (mem_allAmong_cons.mpr (.inr (.inr member)))
      rw [fullTextAmong, own, behind, order_cons]
      simp [Branch.tail, String.append_assoc]

end

/-- A branch and what is below it stand among others in document order, by induction on these. -/
theorem allAmong_sublist {around : Branch}
    : (branches : List Branch) → around ∈ allAmong branches →
      (allAmong [around]).Sublist (allAmong branches)
  | [], member => by simp [allAmong] at member
  | mk id kind lead children tail :: rest, member => by
      rcases mem_allAmong_cons.mp member with rfl | member | member
      · simp [allAmong]
      · rw [allAmong]
        exact ((allAmong_sublist children member).trans (List.sublist_append_left _ _)).cons _
      · rw [allAmong]
        exact ((allAmong_sublist rest member).trans (List.sublist_append_right _ _)).cons _

/-- What is below a branch is its leading text or brought by a branch below it. -/
theorem shows_of_mem_nodesBelow {around : Branch}
    (plain : ∀ inner ∈ allAmong around.children, inner.Plain) {node : Node}
    (below : node ∈ Tree.preorderAll around.nodesBelow)
    : node = .text (.lead around.id) around.lead
      ∨ ∃ branch ∈ allAmong around.children, branch.Shows node := by
  rw [nodesBelow, Tree.preorderAll_append, List.mem_append, mem_trees_iff,
    mem_order_iff node around.children plain] at below
  exact below.imp_left And.right

/-- Different nodes below an element have different names. -/
theorem nodup_refs_nodesBelow {around : Branch} (element : around.kind.isElement = true)
    (distinct : (numbers [around]).Nodup)
    : ((Tree.preorderAll around.nodesBelow).map Node.ref).Nodup := by
  have all := nodup_refs_order distinct
  obtain ⟨id, kind, lead, children, tail⟩ := around
  obtain ⟨tag, attributes, rfl⟩ : ∃ tag attributes, kind = .element tag attributes :=
    Kind.exists_of_isElement element
  rw [order_element, List.map_cons, List.nodup_cons, List.map_append, List.nodup_append'] at all
  rw [nodesBelow, Tree.preorderAll_append]
  exact all.2.1

-----------------------------------------------------------------------------------------
-- A removed element
-----------------------------------------------------------------------------------------

/-- Removing a branch takes out its nodes, by induction on the siblings. The text in front of them
takes up the text behind it if it is the first one.
-/
theorem lacks_pruneAmong {wanted : Nat} {branch : Branch}
    : (branches : List Branch) → (∀ branch ∈ allAmong branches, branch.Plain) →
      (numbers branches).Nodup → findAmong? wanted branches = some branch →
      ∀ (slot : Slot) (front : String),
        Lacks branch.nodes (Tree.preorderAll (slot.trees front) ++ order branches)
          (Tree.preorderAll (slot.trees (pruneAmong (· == wanted) front branches).1)
            ++ order (pruneAmong (· == wanted) front branches).2)
  | [], _, _, found, _, _ => by
      rw [findAmong?] at found
      cases found
  | mk number kind lead children tail :: rest, plain, distinct, found, slot, front => by
      rw [numbers_cons, List.nodup_cons, List.nodup_append'] at distinct
      obtain ⟨own, distinct, distinct', apart⟩ := distinct
      simp only [Branch.children, Branch.id] at own distinct apart
      rw [findAmong?, find?] at found
      by_cases same : number = wanted
      · subst same
        rw [if_pos rfl] at found
        cases found
        have absent : number ∉ numbers rest := fun member => own (List.mem_append_right _ member)
        rw [pruneAmong, if_pos (by simp), pruneAmong_of_not_mem absent, order_cons]
        exact ⟨Tree.preorderAll (slot.trees front),
          Tree.preorderAll (Slot.trees (.tail number) tail) ++ order rest, by simp,
          by simp [String.append_assoc], by simp⟩
      · rw [if_neg same] at found
        rw [pruneAmong, if_neg (by simpa using same)]
        cases inner : findAmong? wanted children with
        | some below =>
            rw [inner] at found
            cases found
            have absent : wanted ∉ numbers rest := fun member =>
              apart (mem_numbers_of_findAmong? inner).2.2 member
            have element : kind.isElement = true := by
              by_contra other
              have empty : children = [] :=
                (plain _ (mem_allAmong_cons.mpr (.inl rfl)) (Bool.eq_false_iff.mpr other)).2
              rw [empty, findAmong?] at inner
              cases inner
            obtain ⟨tag, attributes, rfl⟩ := Kind.exists_of_isElement element
            have lacks := lacks_pruneAmong children (fun branch member =>
              plain branch (mem_allAmong_cons.mpr (.inr (.inl member)))) distinct inner
              (.lead number) lead
            have whole := lacks.within
              (Tree.preorderAll (slot.trees front) ++ [.element number tag attributes])
              (Tree.preorderAll (Slot.trees (.tail number) tail) ++ order rest)
            rw [pruneAmong_of_not_mem absent, order_element, order_element]
            simpa only [List.append_assoc, List.cons_append, List.nil_append] using whole
        | none =>
            rw [inner] at found
            have absent := not_mem_numbers_of_findAmong? inner
            have lacks := lacks_pruneAmong rest (fun branch member =>
              plain branch (mem_allAmong_cons.mpr (.inr (.inr member)))) distinct' found
              (.tail number) tail
            have whole := lacks.within
              (Tree.preorderAll (slot.trees front) ++ nodes (mk number kind lead children tail)) []
            rw [pruneAmong_of_not_mem absent, order_cons, order_cons,
              nodes_tail number kind lead children (pruneAmong (· == wanted) tail rest).1 tail]
            simpa only [List.append_nil, List.append_assoc] using whole

theorem lacks_prune {around branch : Branch}
    (plain : ∀ inner ∈ allAmong around.children, inner.Plain)
    (distinct : (numbers around.children).Nodup) (inside : branch ∈ allAmong around.children)
    : Lacks branch.nodes (Tree.preorderAll around.nodesBelow)
        (Tree.preorderAll (around.prune (· == branch.id)).nodesBelow) := by
  obtain ⟨id, kind, lead, children, tail⟩ := around
  rw [nodesBelow, nodesBelow, Tree.preorderAll_append, Tree.preorderAll_append]
  exact lacks_pruneAmong children plain distinct ((findAmong?_eq_some distinct).mpr inside)
    (.lead id) lead

/-- A branch around the removed one stays where it is, but for the text behind it, by induction on the
siblings.
-/
theorem mem_pruneAmong {wanted : Nat} {around : Branch} (inside : wanted ∈ numbers around.children)
    : (branches : List Branch) → (numbers branches).Nodup → around ∈ allAmong branches →
      ∀ front, ∃ tail, (around.prune (· == wanted)).withTail tail
        ∈ allAmong (pruneAmong (· == wanted) front branches).2
  | [], _, member, _ => by simp [allAmong] at member
  | mk number kind lead children tail :: rest, distinct, member, front => by
      rw [numbers_cons, List.nodup_cons, List.nodup_append'] at distinct
      obtain ⟨own, distinct, distinct', -⟩ := distinct
      simp only [Branch.children, Branch.id] at own distinct
      have within {branches : List Branch} (among : around ∈ allAmong branches)
          : wanted ∈ numbers branches := by
        obtain ⟨below, member, rfl⟩ := List.mem_map.mp inside
        exact List.mem_map_of_mem (mem_allAmong_of_below member branches among)
      have other : number ≠ wanted := by
        rintro rfl
        rcases mem_allAmong_cons.mp member with rfl | member | member
        · exact own (List.mem_append_left _ inside)
        · exact own (List.mem_append_left _ (within member))
        · exact own (List.mem_append_right _ (within member))
      rw [pruneAmong, if_neg (by simpa using other)]
      rcases mem_allAmong_cons.mp member with rfl | member | member
      · exact ⟨_, mem_allAmong_cons.mpr (.inl rfl)⟩
      · obtain ⟨tail', member⟩ := mem_pruneAmong inside children distinct member lead
        exact ⟨tail', mem_allAmong_cons.mpr (.inr (.inl member))⟩
      · obtain ⟨tail', member⟩ := mem_pruneAmong inside rest distinct' member tail
        exact ⟨tail', mem_allAmong_cons.mpr (.inr (.inr member))⟩

theorem mem_prune {wanted : Nat} {top around : Branch} (distinct : (numbers [top]).Nodup)
    (member : around ∈ allAmong [top]) (inside : wanted ∈ numbers around.children)
    : ∃ tail, (around.prune (· == wanted)).withTail tail
        ∈ allAmong [top.prune (· == wanted)] := by
  obtain ⟨id, kind, lead, children, tail⟩ := top
  rw [numbers_cons, List.nodup_cons, List.nodup_append'] at distinct
  rcases mem_allAmong_cons.mp member with rfl | member | nothing
  · exact ⟨tail, mem_allAmong_cons.mpr (.inl rfl)⟩
  · obtain ⟨tail', member⟩ := mem_pruneAmong inside children distinct.2.1 member lead
    exact ⟨tail', mem_allAmong_cons.mpr (.inr (.inl member))⟩
  · simp [allAmong] at nothing

-----------------------------------------------------------------------------------------
-- A removed text
-----------------------------------------------------------------------------------------

/-- Emptying a slot takes out its text, by what is left behind it. -/
theorem filter_trees (slot own : Slot) (content : String)
    : Tree.preorderAll (own.trees (if slot = own then "" else content))
      = (Tree.preorderAll (own.trees content)).filter fun node => node.ref != .text slot := by
  rw [Slot.preorderAll_trees, Slot.preorderAll_trees]
  by_cases same : slot = own
  · subst same
    by_cases empty : content = "" <;> simp [empty, Node.ref]
  · by_cases empty : content = "" <;> simp [empty, same, Node.ref, Ne.symm same]

/-- The same of some siblings, by induction on them. -/
theorem order_clearAmong (slot : Slot)
    : (branches : List Branch) →
      order (clearAmong slot branches)
        = (order branches).filter fun node => node.ref != .text slot
  | [] => by rw [clearAmong, order_nil, List.filter_nil]
  | mk id kind lead children tail :: rest => by
      have below := order_clearAmong slot children
      have behind := order_clearAmong slot rest
      rw [clearAmong]
      cases kind with
      | element tag attributes =>
          rw [order_element, order_element, List.filter_cons_of_pos (by simp [Node.ref])]
          simp only [List.filter_append, filter_trees, below, behind]
      | comment | instruction =>
          rw [order_other id rfl, order_other id rfl, List.filter_append, filter_trees, behind]

theorem nodesBelow_clear (slot : Slot) (branch : Branch)
    : Tree.preorderAll (branch.clear slot).nodesBelow
      = (Tree.preorderAll branch.nodesBelow).filter fun node => node.ref != .text slot := by
  obtain ⟨id, kind, lead, children, tail⟩ := branch
  rw [nodesBelow, nodesBelow, Tree.preorderAll_append, Tree.preorderAll_append, List.filter_append]
  exact congrArg₂ (· ++ ·) (filter_trees slot (.lead id) lead) (order_clearAmong slot children)

/-- All branches stay where they are when a slot is emptied, but for the text behind them, by induction
on the siblings.
-/
theorem mem_clearAmong (slot : Slot) {branch : Branch}
    : (branches : List Branch) → branch ∈ allAmong branches →
      ∃ tail, (branch.clear slot).withTail tail ∈ allAmong (clearAmong slot branches)
  | [], member => by simp [allAmong] at member
  | mk id kind lead children tail :: rest, member => by
      rw [clearAmong]
      rcases mem_allAmong_cons.mp member with rfl | member | member
      · exact ⟨_, mem_allAmong_cons.mpr (.inl rfl)⟩
      · obtain ⟨tail', member⟩ := mem_clearAmong slot children member
        exact ⟨tail', mem_allAmong_cons.mpr (.inr (.inl member))⟩
      · obtain ⟨tail', member⟩ := mem_clearAmong slot rest member
        exact ⟨tail', mem_allAmong_cons.mpr (.inr (.inr member))⟩

theorem mem_clear (slot : Slot) {top branch : Branch} (member : branch ∈ allAmong [top])
    : ∃ tail, (branch.clear slot).withTail tail ∈ allAmong [top.clear slot] := by
  obtain ⟨id, kind, lead, children, tail⟩ := top
  rcases mem_allAmong_cons.mp member with rfl | member | nothing
  · exact ⟨tail, mem_allAmong_cons.mpr (.inl rfl)⟩
  · obtain ⟨tail', member⟩ := mem_clearAmong slot children member
    exact ⟨tail', mem_allAmong_cons.mpr (.inr (.inl member))⟩
  · simp [allAmong] at nothing

end Branch

end HtmlQuery
