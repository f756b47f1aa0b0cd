import HtmlQuery.Css.Match
import HtmlQuery.Proofs.Css.Spelling
import HtmlQuery.Proofs.Document.Descent

/-! What a compound matches below a node, alone and below an element that another compound matches.
In both cases some of the names below the node are kept in document order.
-/

namespace HtmlQuery.Css

variable {document : Document}

/-- Whether a name belongs to an element that satisfies a compound. -/
def Compound.matched (compound : Compound) (document : Document) (ref : NodeRef) : Bool :=
  (elementsOf (document.node? ref).toList).any (compound.holds document)

/-- Whether a name below a node belongs to an element that satisfies a compound and stands below one
that satisfies another compound.
-/
def Compound.matchedWithin (inner outer : Compound) (document : Document) (start ref : NodeRef)
    : Bool :=
  inner.matched document ref
    && (document.belowRefs start).any fun above =>
      outer.matched document above && (document.belowRefs above).contains ref

/-- Only elements satisfy compounds. -/
theorem Compound.isElement_of_matched {compound : Compound} {ref : NodeRef}
    (matched : compound.matched document ref = true)
    : ∃ id, ref = .element id := by
  cases ref with
  | element id => exact ⟨id, rfl⟩
  | document | text => simp [Compound.matched, elementsOf, Document.node?] at matched

/-- A spelled compound has no scope, so it keeps all candidates that satisfy it. -/
theorem Compound.Spelled.among_eq {compound : Compound} {row : List Token}
    (spelled : compound.Spelled row) (document : Document) (candidates : List Node)
    : compound.among document candidates = candidates.filter (compound.holds document) := by
  obtain @⟨front, rest, type, conditions, typing, demands, -⟩ := spelled
  have unscoped : conditions ≠ [.scope] := by
    rintro rfl
    cases demands with
    | cons first others =>
        cases first with
        | bracketed inner => cases inner
  rw [Compound.among, List.filter_filter]
  · apply List.filter_congr
    intro node member
    rw [Compound.holds, Bool.and_comm]
  · exact unscoped

theorem mem_elementsOf {node : Node} {nodes : List Node}
    : node ∈ elementsOf nodes ↔ node ∈ nodes ∧ ∃ id, node.ref = .element id := by
  rw [elementsOf, List.mem_filter]
  cases node <;> simp [Node.ref]

/-- An element that is known by its name satisfies a compound if its name is matched. -/
theorem Compound.matched_iff {node : Node} (known : document.node? node.ref = some node)
    (compound : Compound)
    : compound.matched document node.ref = true
      ↔ (∃ id, node.ref = .element id) ∧ compound.holds document node = true := by
  rw [Compound.matched, known, List.any_eq_true]
  simp only [mem_elementsOf, Option.toList_some, List.mem_singleton]
  constructor
  · rintro ⟨_, ⟨rfl, element⟩, holds⟩
    exact ⟨element, holds⟩
  · rintro ⟨element, holds⟩
    exact ⟨node, ⟨rfl, element⟩, holds⟩

/-- Some elements below a node are what is left of the names there if the names tell them apart. -/
theorem map_filter_elementsOf {nodes : List Node} {keep : Node → Bool} {kept : NodeRef → Bool}
    (same : ∀ node ∈ nodes, kept node.ref = true ↔ node ∈ elementsOf nodes ∧ keep node = true)
    : ((elementsOf nodes).filter keep).map Node.ref = (nodes.map Node.ref).filter kept := by
  rw [List.filter_map, elementsOf, List.filter_filter]
  congr 1
  apply List.filter_congr
  intro node member
  rw [Function.comp_apply, Bool.eq_iff_iff, same node member, elementsOf, List.mem_filter,
    Bool.and_eq_true]
  tauto

/-- A compound matches the names below a node that belong to elements satisfying it. -/
theorem below_compound (sound : document.Sound) {compound : Compound} {row : List Token}
    (spelled : compound.Spelled row) (ref : NodeRef)
    : Group.below [.compound compound] document ref
      = (document.belowRefs ref).filter (compound.matched document) := by
  refine map_filter_elementsOf fun node member => ?_
  rw [Compound.matched_iff (Document.node?_of_mem_descendants sound member)]
  simp [Complex.reach, Combinator.elements, spelled.among_eq, mem_elementsOf, member]

/-- Two compounds with a blank between match the names below a node that belong to elements
satisfying the second one and stand below elements satisfying the first one.
-/
theorem below_join (sound : document.Sound) {outer inner : Compound} {front back : List Token}
    (spelled : outer.Spelled front) (spelled' : inner.Spelled back) (ref : NodeRef)
    : Group.below [.join (.compound outer) .descendant inner] document ref
      = (document.belowRefs ref).filter (inner.matchedWithin outer document ref) := by
  refine map_filter_elementsOf fun node member => ?_
  have known := Document.node?_of_mem_descendants sound member
  have reached : node ∈ Complex.reach document .descendant ref
        (.join (.compound outer) .descendant inner)
      ↔ ∃ above ∈ elementsOf (document.along Tree.Place.descendants ref),
        outer.holds document above = true
        ∧ node ∈ elementsOf (document.along Tree.Place.descendants above.ref)
        ∧ inner.holds document node = true := by
    simp [Complex.reach, Combinator.elements, spelled.among_eq, spelled'.among_eq, and_assoc]
  rw [List.flatMap_singleton, List.contains_iff_mem, reached, Compound.matchedWithin,
    Bool.and_eq_true, Compound.matched_iff known, List.any_eq_true]
  simp only [mem_elementsOf, Bool.and_eq_true, List.contains_iff_mem,
    Document.ref_mem_belowRefs sound known]
  constructor
  · rintro ⟨⟨element, holds⟩, _, named, matched, below⟩
    obtain ⟨above, inside, rfl⟩ := List.mem_map.mp named
    rw [Compound.matched_iff (Document.node?_of_mem_descendants sound inside)] at matched
    exact ⟨⟨member, element⟩, above, ⟨inside, matched.1⟩, matched.2, ⟨below, element⟩, holds⟩
  · rintro ⟨⟨-, element⟩, above, ⟨inside, element'⟩, holds', ⟨below, -⟩, holds⟩
    refine ⟨⟨element, holds⟩, above.ref, List.mem_map_of_mem inside, ?_, below⟩
    exact (Compound.matched_iff (Document.node?_of_mem_descendants sound inside) outer).mpr
      ⟨element', holds'⟩

end HtmlQuery.Css
