import HtmlQuery.Proofs.Document.Subtrees
import HtmlQuery.Proofs.Text.LowerCase
import HtmlQuery.Proofs.XPath.Concatenation
import HtmlQuery.Proofs.XPath.NamedSteps

/-! The elements below a node that have a name. Predicates compare the name with tags as they are kept,
a step leaves the letter case of tags out of account.
-/

namespace HtmlQuery

-----------------------------------------------------------------------------------------
-- Tags of branches and of nodes
-----------------------------------------------------------------------------------------

/-- The tag of an element. -/
def Kind.tag? : Kind → Option String
  | .element tag _ => some tag
  | _ => none

/-- The tag of an element; other nodes have none. -/
def Node.tag? : Node → Option String
  | .element _ tag _ => some tag
  | _ => none

namespace Branch

/-- The tags of some branches and of all branches below them, as they are kept. -/
def tags (branches : List Branch) : List String :=
  (allAmong branches).filterMap fun branch => branch.kind.tag?

theorem tags_cons (id : Nat) (kind : Kind) (lead : String) (children : List Branch) (tail : String)
    (rest : List Branch)
    : tags (mk id kind lead children tail :: rest)
      = kind.tag?.toList ++ (tags children ++ tags rest) := by
  rw [tags, allAmong, List.filterMap_cons]
  cases found : kind.tag? <;> simp [Branch.kind, found, tags]

/-- Texts have no tags. -/
theorem filterMap_trees (slot : Slot) (content : String)
    : (Tree.preorderAll (slot.trees content)).filterMap Node.tag? = [] := by
  rw [Slot.preorderAll_trees]
  split <;> rfl

/-- The nodes of some siblings have the tags of the branches, by induction on the siblings. -/
theorem filterMap_order
    : (branches : List Branch) → (∀ branch ∈ allAmong branches, branch.Plain) →
      (order branches).filterMap Node.tag? = tags branches
  | [] => fun _ => by rw [order_nil, List.filterMap_nil, tags, allAmong, List.filterMap_nil]
  | mk id kind lead children tail :: rest => fun plain => by
      have own := plain (mk id kind lead children tail) (mem_allAmong_cons.mpr (.inl rfl))
      have below := filterMap_order children fun branch member =>
        plain branch (mem_allAmong_cons.mpr (.inr (.inl member)))
      have behind := filterMap_order rest fun branch member =>
        plain branch (mem_allAmong_cons.mpr (.inr (.inr member)))
      rw [tags_cons, ← below, ← behind]
      cases kind with
      | element tag attributes =>
          rw [order_element, List.filterMap_cons]
          simp only [List.filterMap_append, filterMap_trees]
          rfl
      | comment | instruction =>
          rw [order_other id rfl, List.filterMap_append, filterMap_trees,
            show children = [] from (own rfl).2, order_nil]
          rfl

theorem filterMap_nodesBelow {branch : Branch}
    (plain : ∀ below ∈ allAmong branch.children, below.Plain)
    : (Tree.preorderAll branch.nodesBelow).filterMap Node.tag? = tags branch.children := by
  rw [nodesBelow, Tree.preorderAll_append, List.filterMap_append, filterMap_trees,
    filterMap_order _ plain, List.nil_append]

end Branch

namespace Document

/-- The tags of all elements below a node, as they are kept, with that of the root below the document.
-/
def tagsBelow (document : Document) : NodeRef → List String
  | .document => Branch.tags (if document.isFragment then document.top.children else [document.top])
  | .element id => ((document.branch? id).map fun branch => Branch.tags branch.children).getD []
  | .text _ => []

/-- The nodes below a node have the tags of the branches below it. -/
theorem filterMap_descendants {document : Document} (sound : document.Sound) {ref : NodeRef}
    (isNode : document.IsNode ref)
    : (document.along Tree.Place.descendants ref).filterMap Node.tag? = document.tagsBelow ref := by
  have top : document.top ∈ Branch.allAmong document.branches :=
    Branch.mem_allAmong_cons.mpr (.inl rfl)
  have plain {branch : Branch} (member : branch ∈ Branch.allAmong document.branches)
      : ∀ below ∈ Branch.allAmong branch.children, below.Plain := fun below inside =>
    sound.plain below (Branch.mem_allAmong_of_below inside _ member)
  cases ref with
  | text slot =>
      rw [along_descendants_text]
      rfl
  | document =>
      have below := Branch.filterMap_nodesBelow (plain top)
      rw [along_descendants_document, nodesBelow_eq sound, tagsBelow]
      cases document.isFragment with
      | true => exact below
      | false =>
          obtain ⟨tag, attributes, kind⟩ := Kind.exists_of_isElement sound.element
          have nothing : Branch.tags [] = [] := by rw [Branch.tags, Branch.allAmong]; rfl
          obtain ⟨⟨id, _, lead, children, tail⟩, isFragment, detached⟩ := document
          obtain rfl : _ = Kind.element tag attributes := kind
          simp only [Bool.false_eq_true, if_false]
          rw [Branch.nodes_of_kind rfl, List.filterMap_cons, Branch.tags_cons, nothing,
            List.append_nil]
          exact congrArg (tag :: ·) below
  | element id =>
      obtain ⟨branch, found⟩ : ∃ branch, document.branch? id = some branch := by
        cases found : document.branch? id with
        | none => simp [IsNode, node?, found] at isNode
        | some branch => exact ⟨branch, rfl⟩
      obtain ⟨member, rfl, -⟩ := Branch.mem_numbers_of_findAmong? found
      rw [descendants_element sound member isNode, tagsBelow, found,
        Branch.filterMap_nodesBelow (plain member)]
      rfl

end Document

namespace XPath

-----------------------------------------------------------------------------------------
-- Predicates
-----------------------------------------------------------------------------------------

/-- What predicates count are the tags that are kept as the name in lower case. -/
theorem countBelow_eq {document : Document} (sound : document.Sound) {node : Node}
    (isNode : document.IsNode node.ref) (name : String)
    : countBelow document node name = (document.tagsBelow node.ref).count name.lowered := by
  rw [← Document.filterMap_descendants sound isNode, countBelow, List.count, List.countP_filterMap]
  apply List.countP_congr
  intro below _
  cases below <;> simp [Node.tag?]

/-- What a step finds are the tags that are the name in whatever letter case. -/
theorem length_filter_accepts {document : Document} (sound : document.Sound) {ref : NodeRef}
    (isNode : document.IsNode ref) (localName : String)
    : ((document.along Tree.Place.descendants ref).filter (NodeTest.name localName).accepts).length
      = (document.tagsBelow ref).countP fun tag => tag.lowered == localName := by
  rw [← Document.filterMap_descendants sound isNode, ← List.countP_eq_length_filter,
    List.countP_filterMap]
  apply List.countP_congr
  intro below _
  cases below <;> simp [Node.tag?, NodeTest.accepts]

/-- As many items equal one of them as satisfy a test just if no other one does, by induction on the
items.
-/
theorem count_eq_countP_iff {α : Type} [DecidableEq α] {one : α} {test : α → Bool}
    (own : test one = true) (items : List α)
    : items.count one = items.countP test ↔ ∀ item ∈ items, test item = true → item = one := by
  have fewer (rest : List α) : rest.count one ≤ rest.countP test :=
    List.countP_mono_left fun item _ same => by rw [beq_iff_eq.mp same, own]
  induction items with
  | nil => simp
  | cons item rest ih =>
      have bound := fewer rest
      rw [List.forall_mem_cons]
      by_cases same : item = one
      · simp [same, own, ih]
      · cases passes : test item with
        | false => simp [same, passes, ih]
        | true =>
            simp only [List.count_cons, List.countP_cons, passes, same, beq_iff_eq, if_true, if_false,
              false_and, forall_const, iff_false]
            omega

/-- A step by name to all that is below a node keeps the elements that have the name. -/
theorem outcome_descendant (document : Document) {name : String}
    (named : Token.IsLexeme .name name.toList) (ref : NodeRef)
    : outcome document ("descendant::" ++ name) [.node ref]
      = .ok (((document.along Tree.Place.descendants ref).filter
          (NodeTest.name name.lowered).accepts).map fun below => .node below.ref) := by
  obtain ⟨path, covers, steps⟩ := Path.exists_covers_axis .descendant named
  refine (outcome_of_covers covers document [.node ref]).trans ?_
  rw [Path.select, steps, Path.selectSteps, Step.select_unfiltered document (by decide)]
  simp [Item.ref?, Axis.nodes, Path.selectSteps, Except.mapError, bind, Except.bind]

/--
A step to all that is below a node, or below the document, finds the elements whose tag is the name in
whatever letter case; a predicate counts those whose tag is kept as the name in lower case. So both
agree just if all tags below the node that are the name in some letter case are kept in lower case, and
on whether there is any element just if one of these tags is.
-/
theorem count_agrees_iff {document : Document} (reachable : document.Reachable) {ref : NodeRef}
    (isNode : document.IsNode ref) (holds : ∀ slot, ref ≠ .text slot) {name : String}
    (named : Token.IsLexeme .name name.toList)
    : ∃ node found,
      document.node? ref = some node
      ∧ outcome document ("descendant::" ++ name) [.node ref] = .ok found
      ∧ found.length = (document.tagsBelow ref).countP (fun tag => tag.lowered == name.lowered)
      ∧ (∀ relation value position size,
          (Predicate.count name relation value).holds document ⟨node, position, size⟩
          = .ok (relation.holds ((document.tagsBelow ref).count name.lowered) value))
      ∧ ((document.tagsBelow ref).count name.lowered = found.length
        ↔ ∀ tag ∈ document.tagsBelow ref, tag.lowered = name.lowered → tag = name.lowered)
      ∧ ∀ position size,
          (Predicate.hasDescendant name).holds document ⟨node, position, size⟩
            = .ok (!found.isEmpty)
          ↔ ((∃ tag ∈ document.tagsBelow ref, tag.lowered = name.lowered)
            → name.lowered ∈ document.tagsBelow ref) := by
  have sound := reachable.sound
  obtain ⟨node, known⟩ := Option.isSome_iff_exists.mp isNode.1
  obtain rfl := Document.ref_of_node? known
  have counted := countBelow_eq sound isNode name
  have length := length_filter_accepts sound isNode name.lowered
  have other : ∀ slot content, node ≠ .text slot content := by
    rintro slot content rfl
    exact holds slot rfl
  have agree : (document.tagsBelow node.ref).count name.lowered
        = (document.tagsBelow node.ref).countP (fun tag => tag.lowered == name.lowered)
      ↔ ∀ tag ∈ document.tagsBelow node.ref, (tag.lowered == name.lowered) = true
        → tag = name.lowered :=
    count_eq_countP_iff (by simp) _
  set found : List Item := ((document.along Tree.Place.descendants node.ref).filter
    (NodeTest.name name.lowered).accepts).map fun below => .node below.ref
  refine ⟨node, found, known, ?_, ?_, ?_, ?_, ?_⟩
  · exact outcome_descendant document named node.ref
  · rw [List.length_map, length]
  · intro relation value position size
    rw [← counted]
    cases node with
    | text slot content => exact (other slot content rfl).elim
    | document | element => rfl
  · rw [List.length_map, length]
    simpa using agree
  · intro position size
    have held : (Predicate.hasDescendant name).holds document ⟨node, position, size⟩
        = .ok (countBelow document node name != 0) := by
      cases node with
      | text slot content => exact (other slot content rfl).elim
      | document | element => rfl
    have matching : (found.isEmpty = false)
        ↔ ∃ tag ∈ document.tagsBelow node.ref, tag.lowered = name.lowered := by
      rw [List.isEmpty_eq_false_iff, ← List.length_pos_iff, List.length_map, length,
        List.countP_pos_iff]
      simp only [beq_iff_eq]
    have kept : (document.tagsBelow node.ref).count name.lowered ≠ 0
        ↔ name.lowered ∈ document.tagsBelow node.ref := by
      rw [← Nat.pos_iff_ne_zero, List.count_pos_iff]
    have among : name.lowered ∈ document.tagsBelow node.ref
        → ∃ tag ∈ document.tagsBelow node.ref, tag.lowered = name.lowered := fun member =>
      ⟨name.lowered, member, String.lowered_lowered name⟩
    rw [held, counted, Except.ok.injEq, Bool.eq_iff_iff, bne_iff_ne, kept, Bool.not_eq_true',
      matching]
    exact ⟨fun same => same.mpr, fun reverse => ⟨among, reverse⟩⟩

/-- A complete document with an element within another one and a comment in front of it. -/
def nested : Document :=
  .complete "html" [] [.comment "c", .element "p" [] [.element "b" [] []], .text "x"]

/-- All tags are in lower case, so a name in upper case is found and counted alike. -/
theorem count_agrees_upper
    : nested.Reachable
      ∧ nested.IsNode .document
      ∧ (∀ slot, NodeRef.document ≠ .text slot)
      ∧ Token.IsLexeme .name "B".toList
      ∧ nested.tagsBelow .document = ["html", "p", "b"]
      ∧ outcome nested "descendant::B" [.node .document] = .ok [.node (.element 3)]
      ∧ (Predicate.hasDescendant "B").holds nested ⟨.document, 1, 1⟩ = .ok true := by
  have reachable : nested.Reachable := .complete _ _ _
  have isNode : nested.IsNode .document := ⟨by cbv, by simp⟩
  have holds : ∀ slot, NodeRef.document ≠ .text slot := by simp
  have lexeme : Token.IsLexeme .name "B".toList := Token.isLexeme_of_isPlainName (by decide)
  have tags : nested.tagsBelow .document = ["html", "p", "b"] := by cbv
  have evaluated : outcome nested ("descendant::" ++ "B") [.node .document]
      = .ok [.node (.element 3)] := by
    have below : nested.along Tree.Place.descendants .document
        = [.element 0 "html" [], .element 2 "p" [], .element 3 "b" [], .text (.tail 2) "x"] := by
      cbv
    rw [outcome_descendant nested lexeme, below]
    exact congrArg Except.ok (by decide +kernel)
  obtain ⟨node, found, known, same, -, -, -, agrees⟩ :=
    count_agrees_iff reachable isNode holds lexeme
  obtain rfl : Node.document = node := Option.some.inj known
  obtain rfl := Except.ok.inj (evaluated.symm.trans same)
  have held := (agrees 1 1).mpr fun _ => by rw [tags]; decide +kernel
  exact ⟨reachable, isNode, holds, lexeme, tags, evaluated, held⟩

/-- An element whose tag is kept in upper case. -/
def shouting : Document :=
  .fragment [.element "P" [] []]

/-- A step finds the element whose tag is kept in upper case, no predicate counts it. -/
theorem count_disagrees_upper
    : ¬ ∃ found,
        outcome shouting ("descendant::" ++ "p") [.node .document] = .ok found
        ∧ (∀ relation value position size,
            (Predicate.count "p" relation value).holds shouting ⟨.document, position, size⟩
            = .ok (relation.holds found.length value))
        ∧ ∀ position size,
            (Predicate.hasDescendant "p").holds shouting ⟨.document, position, size⟩
            = .ok (!found.isEmpty) := by
  rintro ⟨found, evaluated, -, held⟩
  have below : shouting.along Tree.Place.descendants .document = [.element 1 "P" []] := by cbv
  have one : outcome shouting ("descendant::" ++ "p") [.node .document]
      = .ok [.node (.element 1)] := by
    rw [outcome_descendant shouting (Token.isLexeme_of_isPlainName (by decide)), below]
    exact congrArg Except.ok (by decide +kernel)
  have none : (Predicate.hasDescendant "p").holds shouting ⟨.document, 1, 1⟩ = .ok false := by
    simp only [Predicate.holds, countBelow, Node.ref, below]
    decide +kernel
  obtain rfl := Except.ok.inj (one.symm.trans evaluated)
  simpa using none.symm.trans (held 1 1)

end XPath

end HtmlQuery
