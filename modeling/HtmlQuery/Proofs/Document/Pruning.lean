import Mathlib.Algebra.Order.Group.Nat
import HtmlQuery.Proofs.Document.RemovedTexts

/-! Removing several elements, seen from the tree that is left. It is the tree without them, in which
texts that have become neighbours are joined, so the order of the removals makes no difference.
-/

namespace HtmlQuery

/-- What stands below an element: the text in a slot, or a branch with what stands below that. -/
inductive Piece where
  | text (slot : Slot) (content : String)
  | branch (id : Nat) (kind : Kind) (inner : List Piece)

namespace Piece

/-- The pieces that some siblings make up, each with what is in it and with the text behind it. -/
def row : List Branch → List Piece
  | [] => []
  | .mk id kind lead children tail :: rest =>
      .branch id kind (.text (.lead id) lead :: row children) :: .text (.tail id) tail :: row rest

/-- The pieces without the branches that have certain numbers, at any depth. All texts behind these
branches stay.
-/
def delete (gone : Nat → Bool) : List Piece → List Piece
  | [] => []
  | .text slot content :: rest => .text slot content :: delete gone rest
  | .branch id kind inner :: rest =>
      if gone id then delete gone rest else .branch id kind (delete gone inner) :: delete gone rest

/-- A text in front of some pieces, which takes up the text that they begin with. -/
def absorb (slot : Slot) (content : String) : List Piece → List Piece
  | .text _ more :: others => .text slot (content ++ more) :: others
  | others => .text slot content :: others

/-- The pieces in which texts without a branch in between are one text, in the first one's slot. -/
def join : List Piece → List Piece
  | [] => []
  | .text slot content :: rest => absorb slot content (join rest)
  | .branch id kind inner :: rest => .branch id kind (join inner) :: join rest

/-- A branch from which certain branches below it are deleted, with its texts joined. -/
def without (gone : Nat → Bool) : Piece → Piece
  | .branch id kind inner => .branch id kind (join (delete gone inner))
  | .text slot content => .text slot content

/-- Two texts in front of others are joined like one. -/
theorem join_texts (front behind : Slot) (first second : String) (rest : List Piece)
    : join (.text front first :: .text behind second :: rest)
      = join (.text front (first ++ second) :: rest) := by
  simp only [join]
  rcases join rest with - | ⟨⟨slot, more⟩ | ⟨id, kind, inner⟩, others⟩
  · rfl
  · simp only [absorb, String.append_assoc]
  · rfl

/-- Siblings that are left make up the pieces that are left of all of them, by induction on the
siblings. The text in front of them takes up what is joined to it.
-/
theorem row_pruneAmong (gone : Nat → Bool)
    : (slot : Slot) → (front : String) → (branches : List Branch) →
      .text slot (Branch.pruneAmong gone front branches).1
          :: row (Branch.pruneAmong gone front branches).2
        = join (.text slot front :: delete gone (row branches))
  | slot, front, [] => by
      rw [Branch.pruneAmong, row, delete, join, join]
      rfl
  | slot, front, .mk id kind lead children tail :: rest => by
      rw [Branch.pruneAmong, row, delete]
      cases gone id with
      | true =>
          simp only [if_true]
          rw [row_pruneAmong gone slot (front ++ tail) rest, delete, join_texts]
      | false =>
          have below := row_pruneAmong gone (.lead id) lead children
          have behind := row_pruneAmong gone (.tail id) tail rest
          simp only [Bool.false_eq_true, if_false]
          rw [row, below, behind, delete, delete, join.eq_2 slot, join.eq_3]
          rfl

end Piece

namespace Document

/-- The document's top with all that stands below it, comments and instructions included. -/
def piece (document : Document) : Piece :=
  .branch document.top.id document.top.kind
    (.text (.lead document.top.id) document.top.lead :: Piece.row document.top.children)

/-- Removing elements takes away all of them below the top, by induction on what is removed. -/
theorem top_removeElements (document : Document) (ids : List Nat)
    : (document.removeAll (ids.map .element)).top = document.top.prune (ids.contains ·) := by
  induction ids generalizing document with
  | nil =>
      obtain ⟨⟨id, kind, lead, children, tail⟩, isFragment, detached⟩ := document
      have absent : ∀ number ∈ Branch.numbers children, ([] : List Nat).contains number = false :=
        fun _ _ => rfl
      rw [Branch.prune_mk, Branch.pruneAmong_of_absent lead children absent]
      rfl
  | cons id rest ih =>
      have next := ih (document.removeElement id)
      rw [top_removeElement] at next
      apply next.trans
      obtain ⟨⟨number, kind, lead, children, tail⟩, isFragment, detached⟩ := document
      have either : (fun number => number == id || rest.contains number)
          = fun number => (id :: rest).contains number := by
        funext number
        rw [List.contains_cons]
      rw [Branch.prune_mk, Branch.prune_mk, Branch.prune_mk, Branch.pruneAmong_pruneAmong, either]

theorem piece_prune (document : Document) (gone : Nat → Bool)
    : piece { document with top := document.top.prune gone } = document.piece.without gone := by
  obtain ⟨⟨id, kind, lead, children, tail⟩, isFragment, detached⟩ := document
  have row := Piece.row_pruneAmong gone (.lead id) lead children
  rw [piece, piece, Branch.prune_mk, Piece.without, Piece.delete]
  simp only [Branch.id, Branch.kind, Branch.lead, Branch.children, row]

/-- The nodes of the tree depend on the top alone. -/
theorem tree_of_top {document other : Document} (top : document.top = other.top)
    (isFragment : document.isFragment = other.isFragment)
    : document.tree = other.tree := by
  rw [tree, tree, top, isFragment]

/--
Removing elements, one after the other, leaves the tree from which all of them are deleted with what is
in them, and in which texts that have become neighbours are joined. Numbers of detached elements and
of the root don't occur below the top, so these make no difference, and neither does the order.
-/
theorem removeAll_elements (document : Document) (ids : List Nat)
    : (document.removeAll (ids.map .element)).piece = document.piece.without (ids.contains ·)
      ∧ ∀ others : List Nat,
        ids.Perm others →
        (document.removeAll (others.map .element)).top
            = (document.removeAll (ids.map .element)).top
          ∧ (document.removeAll (others.map .element)).tree
            = (document.removeAll (ids.map .element)).tree := by
  constructor
  · rw [← piece_prune, piece, piece, top_removeElements]
  · intro others permuted
    have same : (fun id => others.contains id) = fun id => ids.contains id := by
      funext id
      rw [Bool.eq_iff_iff, List.contains_iff_mem, List.contains_iff_mem]
      exact permuted.mem_iff.symm
    have top : (document.removeAll (others.map .element)).top
        = (document.removeAll (ids.map .element)).top := by
      rw [top_removeElements, top_removeElements, same]
    refine ⟨top, tree_of_top top ?_⟩
    rw [isFragment_removeAll, isFragment_removeAll]

/-- An element with elements, texts and a comment in it. -/
def mixed : Document :=
  fragment [.element "div" [] [.text "a", .element "b" [] [.element "i" [] []], .text "c",
    .comment "", .text "d", .element "u" [] [], .text "e"]]

/-- The inner elements are removed, one of them twice and one of them within another one. The text
behind the comment stays there.
-/
theorem removeAll_mixed
    : (mixed.removeAll [.element 5, .element 3, .element 2, .element 5]).piece
        = .branch 0 (.element "div" []) [
          .text (.lead 0) "",
          .branch 1 (.element "div" []) [
            .text (.lead 1) "ac",
            .branch 4 (.comment "") [.text (.lead 4) ""],
            .text (.tail 4) "de"],
          .text (.tail 1) ""]
      ∧ [5, 3, 2, 5].Perm [2, 5, 5, 3]
      ∧ (mixed.removeAll [.element 2, .element 5, .element 5, .element 3]).tree
        = (mixed.removeAll [.element 5, .element 3, .element 2, .element 5]).tree := by
  obtain ⟨pruned, ordered⟩ := removeAll_elements mixed [5, 3, 2, 5]
  have permuted : [5, 3, 2, 5].Perm [2, 5, 5, 3] := by decide
  refine ⟨?_, permuted, (ordered _ permuted).2⟩
  apply pruned.trans
  cbv

end Document

end HtmlQuery
