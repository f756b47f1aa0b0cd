import Mathlib.Data.List.TakeWhile
import HtmlQuery.Proofs.Document.AxisPartition
import HtmlQuery.Proofs.Document.ExactRemoval
import HtmlQuery.Proofs.Document.Gaps

/-! When a node that was taken out is back in the tree later. An element never is. The slot of a text
is if it was emptied and an element directly behind it is removed, which leaves its tail there.
-/

namespace HtmlQuery.Document

/-- Whether a node stays detached for good: whatever nodes are removed, it isn't attached again, and
removing it once more leaves the document as it is.
-/
def StaysDetached (document : Document) (ref : NodeRef) : Prop :=
  ∀ refs : List NodeRef, (∀ other ∈ refs, document.IsNode other) →
    (document.removeAll refs).isAttached ref = false
      ∧ (document.removeAll refs).remove ref = document.removeAll refs

/-- Whether a node is the slot in front of an element with a text behind it, with nothing but elements
in between.
-/
def Refillable (document : Document) (ref : NodeRef) : Prop :=
  ∃ gap ∈ document.top.gaps (fun _ => false), ref = .text gap.slot
    ∧ ∃ branch ∈ gap.behind.takeWhile (·.kind.isElement), branch.tail ≠ ""

/-- Removing a detached node leaves the document as it is. -/
theorem remove_of_detached {document : Document} {ref : NodeRef}
    (detached : document.isAttached ref = false)
    : document.remove ref = document := by
  cases ref with
  | document => rfl
  | text slot => rw [remove, detached, if_neg Bool.false_ne_true]
  | element id =>
      obtain ⟨⟨number, kind, lead, children, tail⟩, isFragment, taken⟩ := document
      rw [isAttached, Branch.find?] at detached
      split at detached
      · cases detached
      · have absent := Option.isSome_eq_false_iff.mp detached
        rw [Option.isNone_iff_eq_none] at absent
        simp only [remove, removeElement, Branch.children, absent]

-----------------------------------------------------------------------------------------
-- Gaps of attached nodes
-----------------------------------------------------------------------------------------

/-- A branch is in the tree if its leading slot is. -/
theorem isAttached_element_iff (document : Document) (id : Nat)
    : document.isAttached (.element id) = true
      ↔ ∃ gap ∈ document.top.gaps (fun _ => false), gap.slot = .lead id := by
  rw [Branch.exists_gap_within_iff fun slot _ => slot = .lead id, isAttached, Branch.find?_eq,
    Branch.findAmong?_eq, List.find?_isSome]
  simp

/-- A text is attached if its slot is in the tree and not empty. -/
theorem isAttached_text_iff {document : Document} (sound : document.Sound) (slot : Slot)
    : document.isAttached (.text slot) = true
      ↔ ∃ gap ∈ document.top.gaps (fun _ => false), gap.slot = slot ∧ gap.text ≠ "" := by
  rw [Branch.exists_gap_within_iff fun other text => other = slot ∧ text ≠ ""]
  constructor
  · intro attached
    cases slot with
    | lead owner =>
        rw [isAttached, Branch.find?_eq] at attached
        cases found : Branch.findAmong? owner [document.top] with
        | none => simp [found] at attached
        | some branch =>
            obtain ⟨member, rfl, -⟩ := Branch.mem_numbers_of_findAmong? found
            exact .inl ⟨branch, member, rfl, by simpa [found] using attached⟩
    | tail owner =>
        rw [isAttached] at attached
        cases found : Branch.findAmong? owner document.top.children with
        | none => simp [found] at attached
        | some branch =>
            obtain ⟨member, rfl, -⟩ := Branch.mem_numbers_of_findAmong? found
            exact .inr ⟨branch, member, rfl, by simpa [found] using attached⟩
  · intro holds
    by_contra detached
    obtain ⟨leads, tails⟩ := empty_of_not_attached sound (Bool.eq_false_iff.mpr detached)
    rcases holds with ⟨branch, member, rfl, some⟩ | ⟨branch, member, rfl, some⟩
    · exact some (leads branch member rfl)
    · exact some (tails branch member rfl)

/-- The gaps that several removals leave. -/
theorem gaps_removeAll {document : Document} (sound : document.Sound) (refs : List NodeRef)
    : (document.removeAll refs).top.gaps (fun _ => false)
      = (document.top.gaps (goneBy refs)).map fun gap =>
        (gap.blank fun slot => document.takeOut [] slot refs).prune (goneBy refs) := by
  rw [top_removeAll_eq sound, Branch.gaps_prune, Branch.gaps_blank, List.map_map]
  rfl

/-- An element is attached after several removals if it is outside of the removed elements. -/
theorem isAttached_element_removeAll_iff {document : Document} (sound : document.Sound)
    (refs : List NodeRef) (id : Nat)
    : (document.removeAll refs).isAttached (.element id) = true
      ↔ ∃ gap ∈ document.top.gaps (goneBy refs), gap.slot = .lead id := by
  rw [isAttached_element_iff, gaps_removeAll sound]
  simp only [List.mem_map, exists_exists_and_eq_and]
  rfl

/-- The slot of a text is attached after several removals if it is outside of the removed elements and
holds its own text or one from behind the elements that stood directly behind it, not taken out.
-/
theorem isAttached_text_removeAll_iff {document : Document} (reachable : document.Reachable)
    (refs : List NodeRef) (slot : Slot)
    : (document.removeAll refs).isAttached (.text slot) = true
      ↔ ∃ gap ∈ document.top.gaps (goneBy refs), gap.slot = slot
        ∧ (gap.text ≠ "" ∧ document.takeOut [] slot refs = false
          ∨ ∃ branch ∈ gap.behind.takeWhile fun branch => goneBy refs branch.id,
            branch.tail ≠ "" ∧ document.takeOut [] (.tail branch.id) refs = false) := by
  rw [isAttached_text_iff (reachable.removeAll refs).sound, gaps_removeAll reachable.sound]
  simp only [List.mem_map, exists_exists_and_eq_and, Gap.prune, Gap.blank,
    Branch.front_ne_empty_iff]
  refine exists_congr fun gap => and_congr_right fun _ => and_congr_right ?_
  rintro rfl
  apply or_congr_left
  split
  · rename_i taken
    simp [taken]
  · rename_i kept
    simp [kept]

-----------------------------------------------------------------------------------------
-- Detached nodes
-----------------------------------------------------------------------------------------

/-- What stands behind a gap in the tree is below the top. -/
theorem mem_below_of_behind {document : Document} {gap : Gap} {branch : Branch}
    (member : gap ∈ document.top.gaps (fun _ => false))
    (behind : branch ∈ Branch.allAmong gap.behind)
    : branch ∈ Branch.allAmong document.top.children := by
  rcases List.mem_cons.mp member with rfl | member
  · exact behind
  · exact Branch.mem_allAmong_of_behind behind _ member

/-- A branch below the top is a node just if it is an element. -/
theorem isNode_element_iff {document : Document} (sound : document.Sound) {branch : Branch}
    (below : branch ∈ Branch.allAmong document.top.children)
    : document.IsNode (.element branch.id) ↔ branch.kind.isElement = true := by
  have within := mem_branches_of_top (Branch.mem_allAmong_cons.mpr (.inr (.inl below)))
  have found : document.branch? branch.id = some branch :=
    (Branch.findAmong?_eq_some sound.distinct).mpr within
  have other : branch.id ≠ document.top.id := by
    have distinct := sound.distinct_top
    rw [Branch.numbers_cons, List.nodup_cons, List.mem_append] at distinct
    intro same
    exact distinct.1 (.inl (same ▸ List.mem_map_of_mem below))
  obtain ⟨id, kind, lead, children, tail⟩ := branch
  cases kind <;> simp_all [IsNode, node?, Branch.kind, Kind.isElement]

/-- A detached slot that removals bring back to the tree is refilled by an element behind it. -/
theorem refillable_of_isAttached {document : Document} (reachable : document.Reachable)
    {slot : Slot} (detached : document.isAttached (.text slot) = false) {refs : List NodeRef}
    (nodes : ∀ other ∈ refs, document.IsNode other)
    (attached : (document.removeAll refs).isAttached (.text slot) = true)
    : document.Refillable (.text slot) := by
  obtain ⟨gap, left, rfl, own | ⟨branch, gone, some, -⟩⟩ :=
    (isAttached_text_removeAll_iff reachable refs slot).mp attached
  all_goals have member := Branch.gaps_subset (goneBy refs) document.top left
  · have attached := (isAttached_text_iff reachable.sound gap.slot).mpr ⟨gap, member, rfl, own.1⟩
    exact absurd attached (by simp [detached])
  · refine ⟨gap, member, rfl, branch, ?_, some⟩
    refine Branch.mem_takeWhile_of_forall gap.behind (fun other front => ?_) gone
    have behind := (List.takeWhile_sublist _).subset front
    have below := mem_below_of_behind member (Branch.mem_allAmong_of_mem gap.behind behind)
    have selected : .element other.id ∈ refs := by
      simpa [goneBy] using List.mem_takeWhile_imp front
    exact (isNode_element_iff reachable.sound below).mp (nodes _ selected)

/-- A refillable slot comes back when the elements directly behind it are removed. -/
theorem exists_isAttached_of_refillable {document : Document} (reachable : document.Reachable)
    {ref : NodeRef} (refillable : document.Refillable ref)
    : ∃ refs : List NodeRef, (∀ other ∈ refs, document.IsNode other)
      ∧ (document.removeAll refs).isAttached ref = true := by
  obtain ⟨gap, member, rfl, branch, front, some⟩ := refillable
  let ids := (gap.behind.takeWhile (·.kind.isElement)).map Branch.id
  have gone (number : Nat) : goneBy (ids.map .element) number = true ↔ number ∈ ids := by
    simp [goneBy]
  have behind {other : Branch} (front : other ∈ gap.behind.takeWhile (·.kind.isElement))
      : other ∈ Branch.allAmong gap.behind :=
    Branch.mem_allAmong_of_mem gap.behind ((List.takeWhile_sublist _).subset front)
  refine ⟨ids.map .element, ?_, ?_⟩
  · intro ref selected
    obtain ⟨other, front, rfl⟩ : ∃ other ∈ gap.behind.takeWhile (·.kind.isElement),
        .element other.id = ref := by
      simpa [ids] using selected
    have element : other.kind.isElement = true := by simpa using List.mem_takeWhile_imp front
    exact (isNode_element_iff reachable.sound (mem_below_of_behind member (behind front))).mpr element
  · have distinct := reachable.sound.distinct_top
    rw [Branch.numbers_cons, List.nodup_cons, List.nodup_append] at distinct
    have left : gap ∈ document.top.gaps (goneBy (ids.map .element)) := by
      refine Branch.mem_gaps_of_behind distinct.2.1 (fun number taken => ?_) member
      obtain ⟨other, front, rfl⟩ := List.mem_map.mp ((gone number).mp taken)
      exact List.mem_map_of_mem (behind front)
    have removed : branch ∈ gap.behind.takeWhile fun other => goneBy (ids.map .element) other.id :=
      Branch.mem_takeWhile_of_forall gap.behind
        (fun other front => (gone other.id).mpr (List.mem_map_of_mem front)) front
    exact (isAttached_text_removeAll_iff reachable _ gap.slot).mpr
      ⟨gap, left, rfl, .inr ⟨branch, removed, some, takeOut_elements document [] _ ids⟩⟩

/-- An element that is detached is never attached again. -/
theorem not_isAttached_element {document : Document} (reachable : document.Reachable) {id : Nat}
    (detached : document.isAttached (.element id) = false) (refs : List NodeRef)
    : (document.removeAll refs).isAttached (.element id) = false := by
  by_contra attached
  obtain ⟨gap, left, own⟩ := (isAttached_element_removeAll_iff reachable.sound refs id).mp
    (eq_true_of_ne_false attached)
  have attached := (isAttached_element_iff document id).mpr
    ⟨gap, Branch.gaps_subset (goneBy refs) document.top left, own⟩
  simp [detached] at attached

/--
A detached node stays detached for good, whatever nodes are removed, if and only if it isn't the slot
in front of an element with a text behind it. Elements, in particular, do.
-/
theorem staysDetached_iff {document : Document} (reachable : document.Reachable) {ref : NodeRef}
    (detached : document.isAttached ref = false)
    : document.StaysDetached ref ↔ ¬document.Refillable ref := by
  constructor
  · intro stays refillable
    obtain ⟨refs, nodes, attached⟩ := exists_isAttached_of_refillable reachable refillable
    simp [(stays refs nodes).1] at attached
  · intro notRefillable refs nodes
    have still : (document.removeAll refs).isAttached ref = false := by
      cases ref with
      | document => cases detached
      | element id => exact not_isAttached_element reachable detached refs
      | text slot =>
          by_contra attached
          exact notRefillable
            (refillable_of_isAttached reachable detached nodes (eq_true_of_ne_false attached))
    exact ⟨still, remove_of_detached still⟩

/-- The emptied text in front of a comment stays away: the text behind a comment never moves. -/
theorem staysDetached_before_comment
    : commented.Reachable
      ∧ commented.isAttached (.text (.lead 0)) = false
      ∧ commented.StaysDetached (.text (.lead 0)) := by
  have reachable : commented.Reachable := .remove (.fragment _) _
  have detached : commented.isAttached (.text (.lead 0)) = false := by cbv
  have gaps : commented.top.gaps (fun _ => false)
      = [⟨.lead 0, "", [.mk 1 (.comment "c") "" [] "b", .mk 2 (.element "p" []) "" [] ""]⟩,
        ⟨.lead 1, "", []⟩, ⟨.tail 1, "b", [.mk 2 (.element "p" []) "" [] ""]⟩, ⟨.lead 2, "", []⟩,
        ⟨.tail 2, "", []⟩] := by cbv
  refine ⟨reachable, detached, (staysDetached_iff reachable detached).mpr ?_⟩
  rw [Refillable, gaps]
  simp [Branch.kind, Kind.isElement]

/-- The emptied text in front of an element is back once the element is removed: it is the text from
behind the element then, and removing it again takes that text out.
-/
theorem not_staysDetached_before_element
    : between.isAttached (.text (.lead 1)) = true
      ∧ (between.remove (.text (.lead 1))).isAttached (.text (.lead 1)) = false
      ∧ (between.removeAll [.text (.lead 1), .element 2]).isAttached (.text (.lead 1)) = true
      ∧ (between.removeAll [.text (.lead 1), .element 2]).fullText .document = "c"
      ∧ (between.removeAll [.text (.lead 1), .element 2, .text (.lead 1)]).fullText .document = ""
      ∧ ¬(between.remove (.text (.lead 1))).StaysDetached (.text (.lead 1)) := by
  have back
      : (between.removeAll [.text (.lead 1), .element 2]).isAttached (.text (.lead 1)) = true := by
    cbv
  have nodes : ∀ ref ∈ [NodeRef.element 2], (between.remove (.text (.lead 1))).IsNode ref := by
    intro ref member
    obtain rfl := List.mem_singleton.mp member
    have top : (between.remove (.text (.lead 1))).top.id = 0 := by cbv
    exact ⟨by cbv, by simp [top]⟩
  refine ⟨by cbv, by cbv, back, by cbv, by cbv, fun stays => ?_⟩
  have away := (stays [.element 2] nodes).1
  exact absurd (away.symm.trans back) (by decide)

end HtmlQuery.Document
