import Mathlib.Algebra.Order.Group.Nat
import HtmlQuery.Proofs.Document.RemovedTexts

/-! The gaps of a tree, in which its texts stand. A gap that is left by removals holds its own text
and the texts behind the elements that stood directly behind it, as far as they were not taken out.
-/

namespace HtmlQuery

/-- A slot with the text that it holds and the siblings that stand behind it. -/
structure Gap where
  slot : Slot
  text : String
  behind : List Branch

namespace Gap

/-- The gap when certain slots hold no text. -/
def blank (emptied : Slot → Bool) (gap : Gap) : Gap where
  slot := gap.slot
  text := if emptied gap.slot then "" else gap.text
  behind := Branch.blankAmong emptied gap.behind

/-- The gap when some elements are gone. -/
def prune (gone : Nat → Bool) (gap : Gap) : Gap where
  slot := gap.slot
  text := (Branch.pruneAmong gone gap.text gap.behind).1
  behind := (Branch.pruneAmong gone gap.text gap.behind).2

end Gap

namespace Branch

/-- The gaps in and behind some siblings, without those in and behind elements that are gone. -/
def gapsAmong (gone : Nat → Bool) : List Branch → List Gap
  | [] => []
  | mk id _ lead children tail :: rest =>
      if gone id then gapsAmong gone rest
      else
        ⟨.lead id, lead, children⟩ :: gapsAmong gone children
          ++ ⟨.tail id, tail, rest⟩ :: gapsAmong gone rest

/-- The gaps in a branch that stays. -/
def gaps (gone : Nat → Bool) (branch : Branch) : List Gap :=
  ⟨.lead branch.id, branch.lead, branch.children⟩ :: gapsAmong gone branch.children

-----------------------------------------------------------------------------------------
-- Gaps after removals
-----------------------------------------------------------------------------------------

/-- Emptied slots keep their gaps, by induction on the siblings. -/
theorem gapsAmong_blankAmong (gone : Nat → Bool) (emptied : Slot → Bool)
    : (branches : List Branch) →
      gapsAmong gone (blankAmong emptied branches)
        = (gapsAmong gone branches).map (Gap.blank emptied)
  | [] => by simp only [blankAmong, gapsAmong, List.map_nil]
  | mk id kind lead children tail :: rest => by
      have below := gapsAmong_blankAmong gone emptied children
      have behind := gapsAmong_blankAmong gone emptied rest
      rw [blankAmong, gapsAmong, gapsAmong, below, behind]
      cases gone id with
      | true => rfl
      | false => simp [Gap.blank]

/-- The gaps that are left are those outside of the elements taken away, by induction on the
siblings.
-/
theorem gapsAmong_pruneAmong (gone : Nat → Bool)
    : (front : String) → (branches : List Branch) →
      gapsAmong (fun _ => false) (pruneAmong gone front branches).2
        = (gapsAmong gone branches).map (Gap.prune gone)
  | front, [] => by simp only [pruneAmong, gapsAmong, List.map_nil]
  | front, mk id kind lead children tail :: rest => by
      have below := gapsAmong_pruneAmong gone lead children
      have behind := gapsAmong_pruneAmong gone tail rest
      rw [pruneAmong, gapsAmong]
      cases gone id with
      | true => exact gapsAmong_pruneAmong gone (front ++ tail) rest
      | false =>
          simp only [Bool.false_eq_true, if_false]
          rw [gapsAmong, below, behind]
          simp [Gap.prune]

theorem gaps_blank (gone : Nat → Bool) (emptied : Slot → Bool) (branch : Branch)
    : (branch.blank emptied).gaps gone = (branch.gaps gone).map (Gap.blank emptied) := by
  obtain ⟨id, kind, lead, children, tail⟩ := branch
  rw [gaps, gaps, blank, List.map_cons, ← gapsAmong_blankAmong]
  rfl

theorem gaps_prune (gone : Nat → Bool) (branch : Branch)
    : (branch.prune gone).gaps (fun _ => false) = (branch.gaps gone).map (Gap.prune gone) := by
  obtain ⟨id, kind, lead, children, tail⟩ := branch
  rw [gaps, gaps, prune_mk, List.map_cons, ← gapsAmong_pruneAmong gone lead]
  rfl

/-- There is text in front of what is left of some siblings if there was before or behind one of those
that are gone from the front, by induction on the siblings.
-/
theorem front_ne_empty_iff (gone : Nat → Bool) (emptied : Slot → Bool)
    : (front : String) → (branches : List Branch) →
      ((pruneAmong gone front (blankAmong emptied branches)).1 ≠ ""
        ↔ front ≠ "" ∨ ∃ branch ∈ branches.takeWhile fun branch => gone branch.id,
          branch.tail ≠ "" ∧ emptied (.tail branch.id) = false)
  | front, [] => by simp [blankAmong, pruneAmong]
  | front, mk id kind lead children tail :: rest => by
      rw [blankAmong, pruneAmong, List.takeWhile_cons]
      cases taken : gone id with
      | false => simp [Branch.id, taken]
      | true =>
          have behind := front_ne_empty_iff gone emptied
            (front ++ if emptied (.tail id) then "" else tail) rest
          have own : (mk id kind lead children tail).id = id := rfl
          simp only [own, taken, if_true, List.mem_cons, exists_eq_or_imp, behind, ← or_assoc]
          apply or_congr_left
          cases emptied (.tail id) with
          | true => simp
          | false => simp [Branch.tail, imp_iff_not_or]

-----------------------------------------------------------------------------------------
-- The branches around a gap
-----------------------------------------------------------------------------------------

/-- Branches in a row are among all branches. -/
theorem mem_allAmong_of_mem {branch : Branch}
    : (branches : List Branch) → branch ∈ branches → branch ∈ allAmong branches
  | first :: rest, member => by
      rw [mem_allAmong_cons]
      rcases List.mem_cons.mp member with rfl | member
      · exact .inl rfl
      · exact .inr (.inr (mem_allAmong_of_mem rest member))

/-- Branches at the front that have one property stay there by another one that they all have, by
induction on the siblings.
-/
theorem mem_takeWhile_of_forall {first second : Branch → Bool} {branch : Branch}
    : (branches : List Branch) → (∀ other ∈ branches.takeWhile first, second other = true) →
      branch ∈ branches.takeWhile first → branch ∈ branches.takeWhile second
  | other :: rest, all, member => by
      rw [List.takeWhile_cons] at all member
      split at member
      · rename_i holds
        rw [if_pos holds] at all
        rw [List.takeWhile_cons, if_pos (all other List.mem_cons_self)]
        rcases List.mem_cons.mp member with rfl | member
        · exact List.mem_cons_self
        · have others := fun other member => all other (List.mem_cons_of_mem _ member)
          exact List.mem_cons_of_mem _ (mem_takeWhile_of_forall rest others member)
      · cases member

/-- The branches behind a gap are among all branches, by induction on the siblings. -/
theorem mem_allAmong_of_behind {gone : Nat → Bool} {gap : Gap} {branch : Branch}
    (behind : branch ∈ allAmong gap.behind)
    : (branches : List Branch) → gap ∈ gapsAmong gone branches → branch ∈ allAmong branches
  | [], member => by simp [gapsAmong] at member
  | mk id kind lead children tail :: rest, member => by
      rw [mem_allAmong_cons]
      rw [gapsAmong] at member
      split at member
      · exact .inr (.inr (mem_allAmong_of_behind behind rest member))
      · simp only [List.cons_append, List.mem_cons, List.mem_append] at member
        rcases member with rfl | member | rfl | member
        · exact .inr (.inl behind)
        · exact .inr (.inl (mem_allAmong_of_behind behind children member))
        · exact .inr (.inr behind)
        · exact .inr (.inr (mem_allAmong_of_behind behind rest member))

/-- A gap is left if all that goes stands behind it, by induction on the siblings. -/
theorem mem_gapsAmong_of_behind {gone : Nat → Bool} {gap : Gap}
    (behind : ∀ number, gone number = true → number ∈ numbers gap.behind)
    : (branches : List Branch) → (numbers branches).Nodup →
      gap ∈ gapsAmong (fun _ => false) branches → gap ∈ gapsAmong gone branches
  | [], _, member => by simp [gapsAmong] at member
  | mk id kind lead children tail :: rest, distinct, member => by
      rw [numbers_cons, List.nodup_cons, List.nodup_append] at distinct
      obtain ⟨own, distinct, distinct', -⟩ := distinct
      simp only [gapsAmong, Bool.false_eq_true, if_false, List.cons_append, List.mem_cons,
        List.mem_append] at member
      have within (inside : ∀ branch ∈ allAmong gap.behind,
          branch ∈ allAmong children ∨ branch ∈ allAmong rest)
          : gone id = false := by
        by_contra taken
        obtain ⟨branch, member, same⟩ := List.mem_map.mp (behind id (by simpa using taken))
        apply own
        rw [Branch.id, ← same, List.mem_append]
        exact (inside branch member).imp List.mem_map_of_mem List.mem_map_of_mem
      rw [gapsAmong]
      rcases member with rfl | member | rfl | member
      · rw [within fun _ => .inl]
        simp
      · have stays := within fun branch inside => .inl (mem_allAmong_of_behind inside children member)
        have kept := mem_gapsAmong_of_behind behind children distinct member
        simp [stays, kept]
      · rw [within fun _ => .inr]
        simp
      · have stays := within fun branch inside => .inr (mem_allAmong_of_behind inside rest member)
        have kept := mem_gapsAmong_of_behind behind rest distinct' member
        simp [stays, kept]

/-- The gaps outside of some elements are among all gaps, by induction on the siblings. -/
theorem gapsAmong_sublist (gone : Nat → Bool)
    : (branches : List Branch) →
      (gapsAmong gone branches).Sublist (gapsAmong (fun _ => false) branches)
  | [] => by simp [gapsAmong]
  | mk id kind lead children tail :: rest => by
      have below := gapsAmong_sublist gone children
      have behind := gapsAmong_sublist gone rest
      rw [gapsAmong, gapsAmong]
      cases gone id with
      | true => exact (behind.cons _).trans (List.sublist_append_right _ _)
      | false => exact (below.cons_cons _).append (behind.cons_cons _)

theorem gaps_subset (gone : Nat → Bool) (branch : Branch)
    : branch.gaps gone ⊆ branch.gaps fun _ => false :=
  List.cons_subset_cons _ (gapsAmong_sublist gone branch.children).subset

theorem mem_gaps_of_behind {gone : Nat → Bool} {gap : Gap} {branch : Branch}
    (distinct : (numbers branch.children).Nodup)
    (behind : ∀ number, gone number = true → number ∈ numbers gap.behind)
    (member : gap ∈ branch.gaps fun _ => false)
    : gap ∈ branch.gaps gone := by
  rcases List.mem_cons.mp member with rfl | member
  · exact List.mem_cons_self
  · exact List.mem_cons_of_mem _ (mem_gapsAmong_of_behind behind _ distinct member)

/-- The gaps are the slots of the branches, by induction on the siblings. -/
theorem exists_gap_iff (property : Slot → String → Prop)
    : (branches : List Branch) →
      ((∃ gap ∈ gapsAmong (fun _ => false) branches, property gap.slot gap.text)
        ↔ ∃ branch ∈ allAmong branches,
          property (.lead branch.id) branch.lead ∨ property (.tail branch.id) branch.tail)
  | [] => by simp [gapsAmong, allAmong]
  | mk id kind lead children tail :: rest => by
      have below := exists_gap_iff property children
      have behind := exists_gap_iff property rest
      simp only [gapsAmong, Bool.false_eq_true, if_false, List.cons_append, List.mem_cons,
        List.mem_append, or_and_right, exists_or, exists_eq_left, below, behind]
      simp only [mem_allAmong_cons, or_and_right, exists_or, exists_eq_left]
      exact or_assoc.symm.trans or_or_or_comm

/-- The gaps in a branch are its leading slot and those of the branches below it. -/
theorem exists_gap_within_iff (property : Slot → String → Prop) (branch : Branch)
    : (∃ gap ∈ branch.gaps (fun _ => false), property gap.slot gap.text)
      ↔ (∃ below ∈ allAmong [branch], property (.lead below.id) below.lead)
        ∨ ∃ below ∈ allAmong branch.children, property (.tail below.id) below.tail := by
  have below := exists_gap_iff property branch.children
  simp only [and_or_left, exists_or] at below
  have nothing : allAmong [] = [] := by rw [allAmong]
  simp only [gaps, mem_allAmong_cons, nothing, List.not_mem_nil, or_false, List.mem_cons,
    or_and_right, exists_or, exists_eq_left, below, or_assoc]

end Branch

end HtmlQuery
