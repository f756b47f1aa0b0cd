import HtmlQuery.Proofs.Document.InTree
import HtmlQuery.Proofs.Tree.Descent

/-! What is below the nodes of a document. In document order, it stands directly behind each node,
and what is below one node may be below another one too. Going down from several nodes in document
order leads to document order again if only first occurrences count.
-/

namespace HtmlQuery

-----------------------------------------------------------------------------------------
-- First occurrences
-----------------------------------------------------------------------------------------

section

universe u

variable {α : Type u}

/-- Induction from one first occurrence to the next: what is equal to the first item drops out. -/
theorem firstOccurrences_induction [DecidableEq α] {motive : List α → Prop} (nil : motive [])
    (cons : ∀ item rest, motive (rest.filter fun other => !other == item) → motive (item :: rest))
    : (items : List α) → motive items
  | [] => nil
  | item :: rest => cons item rest (firstOccurrences_induction nil cons _)
  termination_by items => items.length
  decreasing_by exact Nat.lt_succ_of_le (List.length_filter_le _ _)

/-- First occurrences keep their order, by induction on them. -/
theorem eraseDups_sublist [DecidableEq α] (items : List α) : items.eraseDups.Sublist items := by
  induction items using firstOccurrences_induction with
  | nil => exact .slnil
  | cons item rest ih =>
      rw [List.eraseDups_cons]
      exact (ih.trans List.filter_sublist).cons_cons item

/-- Some items without repetition are a part of others in order if they are what a test keeps of
them, by induction on the parts.
-/
theorem eq_filter_of_sublist {part whole : List α} (sub : part.Sublist whole)
    (distinct : whole.Nodup) (keep : α → Bool)
    (kept : ∀ item ∈ whole, item ∈ part ↔ keep item = true)
    : part = whole.filter keep := by
  induction sub with
  | slnil => rfl
  | @cons part whole item sub ih =>
      obtain ⟨absent, distinct⟩ := List.nodup_cons.mp distinct
      have out : ¬keep item = true := fun keeps =>
        absent (sub.subset ((kept item List.mem_cons_self).mpr keeps))
      rw [List.filter_cons_of_neg out]
      exact ih distinct fun other member => kept other (List.mem_cons_of_mem _ member)
  | @cons_cons part whole item sub ih =>
      obtain ⟨absent, distinct⟩ := List.nodup_cons.mp distinct
      have inside : keep item = true := (kept item List.mem_cons_self).mp List.mem_cons_self
      rw [List.filter_cons_of_pos inside]
      refine congrArg (item :: ·) (ih distinct fun other member => ?_)
      have apart : other ≠ item := fun same => absent (same ▸ member)
      rw [← kept other (List.mem_cons_of_mem _ member), List.mem_cons, or_iff_right apart]

/-- A part whose first item isn't in front is a part of what stands behind. -/
theorem sublist_of_sublist_append {part front back : List α} (sub : part.Sublist (front ++ back))
    (outside : ∀ item ∈ part.head?, item ∉ front)
    : part.Sublist back := by
  obtain ⟨first, second, rfl, before, behind⟩ := List.sublist_append_iff.mp sub
  cases first with
  | nil => exact behind
  | cons item first => exact (outside item rfl (before.subset List.mem_cons_self)).elim

/-- Without repetitions, nothing is left out. -/
theorem eraseDups_of_nodup [DecidableEq α] {items : List α} (distinct : items.Nodup)
    : items.eraseDups = items := by
  have kept := eq_filter_of_sublist (eraseDups_sublist items) distinct fun _ => true
  simpa using kept

-----------------------------------------------------------------------------------------
-- Nested ranges
-----------------------------------------------------------------------------------------

/-- A row in which a range stands directly behind each item, and ranges are nested. -/
structure Nests (row : List α) (below : α → List α) : Prop where
  distinct : row.Nodup
  range : ∀ item ∈ row, ∃ before behind, row = before ++ item :: (below item ++ behind)
  nested : ∀ item ∈ row, ∀ lower ∈ below item, below lower ⊆ below item

variable {row : List α} {below : α → List α}

/-- What stands behind an item begins with its range. -/
theorem Nests.prefix_behind (nests : Nests row below) {before behind : List α} {item : α}
    (shape : row = before ++ item :: behind)
    : below item <+: behind := by
  obtain ⟨before', behind', shape'⟩ := nests.range item (by simp [shape])
  have distinct := nests.distinct
  rw [shape, List.nodup_middle, List.nodup_cons, List.mem_append, not_or] at distinct
  have same := shape.symm.trans shape'
  rw [List.append_cons_inj_of_notMem distinct.1.1 distinct.1.2] at same
  exact ⟨behind', same.2.2.symm⟩

/-- Of what is in the range of a later item, everything but the range of the first one stands behind
that.
-/
theorem Nests.mem_behind (nests : Nests row below) {before behind : List α} {item : α}
    (shape : row = before ++ item :: (below item ++ behind)) {later lower : α}
    (after : later ∈ below item ++ behind) (inside : lower ∈ below later)
    (fresh : lower ∉ below item)
    : lower ∈ behind := by
  rcases List.mem_append.mp after with within | within
  · exact (fresh (nests.nested item (by simp [shape]) later within inside)).elim
  · obtain ⟨first, second, rfl⟩ := List.append_of_mem within
    have shape' : row = (before ++ item :: (below item ++ first)) ++ later :: second := by
      rw [shape]
      simp
    exact List.mem_append_right _
      (List.mem_cons_of_mem _ ((nests.prefix_behind shape').subset inside))

/-- First occurrences in the ranges of some items in order stand in order, by induction on the
items. What is in the range of the first one doesn't count any more in the others, and what is left
of them stands behind it.
-/
theorem Nests.sublist_flatMap [DecidableEq α] (nests : Nests row below) {items : List α}
    (sub : items.Sublist row) (keep : α → Bool)
    : (items.flatMap fun item => (below item).filter keep).eraseDups.Sublist row := by
  induction items generalizing keep with
  | nil => exact List.nil_sublist row
  | cons item rest ih =>
      obtain ⟨before, behind, shape⟩ := nests.range item (sub.subset List.mem_cons_self)
      have whole : row = (before ++ item :: below item) ++ behind := by
        rw [shape]
        simp
      obtain ⟨front, -, apart⟩ := List.nodup_append'.mp (whole ▸ nests.distinct)
      obtain ⟨-, single, absent⟩ := List.nodup_append'.mp front
      have later : rest.Sublist (below item ++ behind) := by
        refine List.cons_sublist_cons.mp (sublist_of_sublist_append (shape ▸ sub) ?_)
        rintro first ⟨⟩ inside
        exact absent inside List.mem_cons_self
      let fresh (other : α) : Bool := !((below item).filter keep).elem other && keep other
      have others : (rest.flatMap fun other => (below other).filter keep).removeAll
          ((below item).filter keep) = rest.flatMap fun other => (below other).filter fresh := by
        simp only [List.removeAll, List.filter_flatMap, List.filter_filter, fresh]
      have outside : ∀ lower ∈ (rest.flatMap fun other => (below other).filter fresh).eraseDups,
          lower ∈ behind := by
        intro lower member
        obtain ⟨other, among, inside⟩ := List.mem_flatMap.mp (List.mem_eraseDups.mp member)
        obtain ⟨inside, isFresh⟩ := List.mem_filter.mp inside
        refine nests.mem_behind shape (later.subset among) inside fun known => ?_
        simp [fresh, known] at isFresh
      have remains := ih ((List.sublist_cons_self item rest).trans sub) fresh
      have own := (List.nodup_cons.mp single).2.filter keep
      rw [List.flatMap_cons, List.eraseDups_append, eraseDups_of_nodup own, others]
      rw [whole] at remains ⊢
      refine List.Sublist.append ?_ (sublist_of_sublist_append remains fun lower first inFront =>
        apart inFront (outside lower (List.mem_of_mem_head? first)))
      exact (List.filter_sublist.trans (List.sublist_cons_self _ _)).trans
        (List.sublist_append_right _ _)

end

namespace Document

-----------------------------------------------------------------------------------------
-- Nodes below a node
-----------------------------------------------------------------------------------------

/-- What is below a node are nodes of branches that belong to the document. -/
theorem shows_of_mem_descendants {document : Document} (sound : document.Sound) {ref : NodeRef}
    {node : Node} (below : node ∈ document.along Tree.Place.descendants ref)
    : ∃ branch ∈ Branch.allAmong document.branches, branch.Shows node := by
  cases found : document.place? ref with
  | none => simp [along, found] at below
  | some place =>
      rw [along_of_place? found] at below
      obtain ⟨tree, among, search⟩ := List.exists_of_findSome?_eq_some found
      have inside :=
        Tree.mem_tail_preorder_of_mem_descendants (List.mem_of_find?_eq_some search) below
      rcases List.mem_cons.mp among with rfl | among
      · rw [preorder_tree, List.tail_cons] at inside
        obtain ⟨branch, member, shows⟩ := shows_of_mem sound inside
        exact ⟨branch, mem_branches_of_top member, shows⟩
      · exact shows_of_mem_detached sound among (List.mem_of_mem_tail inside)

/-- What is below a node is known by its name. -/
theorem node?_of_mem_descendants {document : Document} (sound : document.Sound) {ref : NodeRef}
    {node : Node} (below : node ∈ document.along Tree.Place.descendants ref)
    : document.node? node.ref = some node := by
  obtain ⟨branch, member, shows⟩ := shows_of_mem_descendants sound below
  exact node?_of_shows sound member shows

/-- The names of all nodes below a node. -/
def belowRefs (document : Document) (ref : NodeRef) : List NodeRef :=
  (document.along Tree.Place.descendants ref).map Node.ref

/-- A node that is known by its name is below a node if its name is. -/
theorem ref_mem_belowRefs {document : Document} (sound : document.Sound) {node : Node}
    (known : document.node? node.ref = some node) {ref : NodeRef}
    : node.ref ∈ document.belowRefs ref ↔ node ∈ document.along Tree.Place.descendants ref := by
  refine ⟨fun below => ?_, fun below => List.mem_map_of_mem below⟩
  obtain ⟨other, inside, same⟩ := List.mem_map.mp below
  have known' := node?_of_mem_descendants sound inside
  rw [same, known] at known'
  exact Option.some.inj known' ▸ inside

/-- What is below a place of the tree is below the name there. -/
theorem belowRefs_of_mem_places {document : Document} (sound : document.Sound)
    {place : Tree.Place Node} (member : place ∈ document.tree.places)
    : document.belowRefs place.label.ref = place.descendants.map Node.ref := by
  rw [belowRefs, along_of_place? (place?_of_mem_places sound member)]

/-- In document order, what is below a node stands directly behind it, and what is below that is
below the node as well.
-/
theorem nests_belowRefs {document : Document} (sound : document.Sound)
    : Nests (document.belowRefs .document) document.belowRefs := by
  have distinct := nodup_refs sound
  rw [preorder_tree, List.map_cons, List.nodup_cons, ← along_descendants_document] at distinct
  have standing : ∀ ref ∈ document.belowRefs .document, ∃ place ∈ document.tree.places,
      place.label.ref = ref ∧ place.label ≠ .document := by
    intro ref member
    obtain ⟨node, below, rfl⟩ := List.mem_map.mp member
    have inside : node ∈ document.tree.preorder := by
      rw [preorder_tree, ← along_descendants_document]
      exact List.mem_cons_of_mem _ below
    obtain ⟨place, within, -, rfl⟩ := place?_of_mem sound inside
    refine ⟨place, within, rfl, fun root => distinct.1 ?_⟩
    rw [root] at below
    exact List.mem_map_of_mem below
  refine ⟨distinct.2, fun ref member => ?_, fun ref member lower below => ?_⟩
  · obtain ⟨place, within, rfl, other⟩ := standing ref member
    obtain ⟨-, before, root⟩ := before_of_mem_places within other
    have whole := Tree.preorder_of_mem_places within
    rw [preorder_tree, ← along_descendants_document, root, List.cons_append] at whole
    refine ⟨before.map Node.ref, place.following.map Node.ref, ?_⟩
    rw [belowRefs_of_mem_places sound within, belowRefs, (List.cons.inj whole).2]
    simp
  · obtain ⟨place, within, rfl, -⟩ := standing ref member
    rw [belowRefs_of_mem_places sound within] at below ⊢
    obtain ⟨node, inside, rfl⟩ := List.mem_map.mp below
    obtain ⟨deeper, among, rfl, subset⟩ := Tree.exists_place_of_mem_descendants within inside
    rw [belowRefs_of_mem_places sound among]
    exact List.map_subset _ subset

end Document

end HtmlQuery
