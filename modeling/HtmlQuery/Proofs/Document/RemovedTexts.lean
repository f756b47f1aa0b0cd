import HtmlQuery.Proofs.Document.Nodes
import HtmlQuery.Proofs.Document.Texts

/-! Which texts are left when several nodes are removed, one after the other. The removal of an element
moves the text behind it, so a text is taken out by whatever comes to hold it.
-/

namespace HtmlQuery

/-- Whether the element with a number is among the given nodes. -/
def goneBy (refs : List NodeRef) (id : Nat) : Bool :=
  refs.contains (.element id)

namespace Document

/-- The texts of a document in document order, without those inside of the given nodes. -/
def textsOutside (document : Document) (refs : List NodeRef) : List (Slot × String) :=
  ((.lead document.top.id, document.top.lead)
    :: Branch.textsAmong (goneBy refs) document.top.children).filter fun text => text.snd != ""

/-- The slots of a document, each with the one that holds its text when the given nodes are gone. -/
def holders (document : Document) (refs : List NodeRef) : List (Slot × Slot) :=
  (.lead document.top.id, .lead document.top.id)
    :: Branch.holdersAmong (goneBy refs) (.lead document.top.id) document.top.children

/-- Whether a slot's text is taken out with a node that is removed behind others: the node is the slot
that holds the text by then.
-/
def takesOut (document : Document) (before : List NodeRef) (slot : Slot) : NodeRef → Bool
  | .text holder => (document.holders before).contains (slot, holder)
  | _ => false

/-- Whether a slot's text is taken out with some nodes that are removed one by one behind others. -/
def takeOut (document : Document) (before : List NodeRef) (slot : Slot) : List NodeRef → Bool
  | [] => false
  | ref :: rest =>
      document.takesOut before slot ref || takeOut document (ref :: before) slot rest

/-- What is left of the texts when some nodes are removed. -/
def textsLeft (document : Document) (refs : List NodeRef) : List (Slot × String) :=
  (document.textsOutside refs).filter fun text => !document.takeOut [] text.fst refs

end Document

-----------------------------------------------------------------------------------------
-- One removal
-----------------------------------------------------------------------------------------

namespace Branch

/-- The branch in which certain slots hold no text. -/
def blank (emptied : Slot → Bool) : Branch → Branch
  | mk id kind lead children tail =>
      mk id kind (if emptied (.lead id) then "" else lead) (blankAmong emptied children) tail

theorem prune_mk (gone : Nat → Bool) (id : Nat) (kind : Kind) (lead : String)
    (children : List Branch) (tail : String)
    : prune gone (mk id kind lead children tail)
      = mk id kind (pruneAmong gone lead children).1 (pruneAmong gone lead children).2 tail :=
  rfl

/-- Slots that are empty anyway can be emptied, by induction on the siblings. -/
theorem clearAmong_of_empty {slot : Slot}
    : (branches : List Branch) →
      (∀ branch ∈ allAmong branches,
        (slot = .lead branch.id → branch.lead = "") ∧ (slot = .tail branch.id → branch.tail = "")) →
      clearAmong slot branches = branches
  | [], _ => by rw [clearAmong]
  | mk id kind lead children tail :: rest, empty => by
      obtain ⟨noLead, noTail⟩ := empty (mk id kind lead children tail)
        (mem_allAmong_cons.mpr (.inl rfl))
      have below := clearAmong_of_empty children fun branch member =>
        empty branch (mem_allAmong_cons.mpr (.inr (.inl member)))
      have behind := clearAmong_of_empty rest fun branch member =>
        empty branch (mem_allAmong_cons.mpr (.inr (.inr member)))
      simp only [Branch.id, Branch.lead, Branch.tail] at noLead noTail
      rw [clearAmong, below, behind]
      congr 2
      · split
        · exact (noLead ‹_›).symm
        · rfl
      · split
        · exact (noTail ‹_›).symm
        · rfl

end Branch

namespace Document

/-- Removing an element takes it away below the top, wherever it is. -/
theorem top_removeElement (document : Document) (id : Nat)
    : (document.removeElement id).top = document.top.prune (· == id) := by
  unfold removeElement
  cases found : Branch.findAmong? id document.top.children with
  | some branch => rfl
  | none =>
      obtain ⟨⟨number, kind, lead, children, tail⟩, isFragment, detached⟩ := document
      have absent := Branch.not_mem_numbers_of_findAmong? found
      rw [Branch.prune_mk]
      simp only [Branch.children] at absent
      rw [Branch.pruneAmong_of_not_mem absent]

/-- A slot that belongs to no attached text is empty. -/
theorem empty_of_not_attached {document : Document} (sound : document.Sound) {slot : Slot}
    (attached : document.isAttached (.text slot) = false)
    : (∀ branch ∈ Branch.allAmong [document.top], slot = .lead branch.id → branch.lead = "")
      ∧ ∀ branch ∈ Branch.allAmong document.top.children,
        slot = .tail branch.id → branch.tail = "" := by
  have distinct := sound.distinct_top
  constructor
  · rintro branch member rfl
    have found := (Branch.findAmong?_eq_some distinct).mpr member
    simpa [isAttached, Branch.find?_eq, found] using attached
  · rintro branch member rfl
    rw [Branch.numbers_cons, List.nodup_cons, Branch.numbers_nil, List.append_nil] at distinct
    have found := (Branch.findAmong?_eq_some distinct.2).mpr member
    simpa [isAttached, found] using attached

/-- Removing a text empties its slot at or below the top, even if there is nothing to empty. -/
theorem top_removeText {document : Document} (sound : document.Sound) (slot : Slot)
    : (document.remove (.text slot)).top = document.top.clear slot := by
  rw [remove]
  cases attached : document.isAttached (.text slot) with
  | true => rfl
  | false =>
      obtain ⟨leads, tails⟩ := empty_of_not_attached sound attached
      obtain ⟨⟨id, kind, lead, children, tail⟩, isFragment, detached⟩ := document
      have below := Branch.clearAmong_of_empty children fun branch member =>
        ⟨leads branch (Branch.mem_allAmong_cons.mpr (.inr (.inl member))), tails branch member⟩
      simp only [Bool.false_eq_true, if_false, Branch.clear, below]
      split
      · rename_i same
        rw [show lead = "" from leads _ (Branch.mem_allAmong_cons.mpr (.inl rfl)) same]
      · rfl

-----------------------------------------------------------------------------------------
-- One holder for each slot
-----------------------------------------------------------------------------------------

/-- The text of a slot is held by one slot. -/
theorem holder_unique {document : Document} (sound : document.Sound) {refs : List NodeRef}
    {slot first second : Slot} (held : (slot, first) ∈ document.holders refs)
    (held' : (slot, second) ∈ document.holders refs)
    : first = second := by
  have distinct : ((document.holders refs).map Prod.fst).Nodup := by
    rw [List.nodup_iff_count_le_one]
    intro slot
    have once := List.nodup_iff_count_le_one.mp sound.distinct_top slot.owner
    have bound := Branch.count_holdersAmong_le (goneBy refs) slot (.lead document.top.id)
      document.top.children
    rw [Branch.numbers_cons, Branch.numbers_nil, List.append_nil, List.count_cons] at once
    rw [holders, List.map_cons, List.count_cons]
    cases slot with
    | lead owner =>
        simp only [Slot.owner] at once bound
        simp only [beq_iff_eq, Slot.lead.injEq] at once ⊢
        omega
    | tail owner =>
        simp only [Slot.owner] at once bound
        simp
        omega
  exact congrArg Prod.snd (List.inj_on_of_nodup_map distinct held held' rfl)

/-- The holder of a slot's text is the slot that is listed with it. -/
theorem contains_holder {document : Document} (sound : document.Sound) {refs : List NodeRef}
    {held : Slot × Slot} (member : held ∈ document.holders refs) (slot : Slot)
    : (document.holders refs).contains (held.fst, slot) = decide (slot = held.snd) := by
  rw [Bool.eq_iff_iff, List.contains_iff_mem, decide_eq_true_eq]
  constructor
  · exact fun listed => holder_unique sound listed member
  · rintro rfl
    exact member

/-- Emptying a slot after nodes were removed empties the slots whose texts it holds. -/
theorem clear_prune {document : Document} (sound : document.Sound) (refs : List NodeRef)
    (slot : Slot) (emptied : Slot → Bool)
    : ((document.top.blank emptied).prune (goneBy refs)).clear slot
      = (document.top.blank fun other =>
          emptied other || (document.holders refs).contains (other, slot)).prune (goneBy refs) := by
  have first : (.lead document.top.id, .lead document.top.id) ∈ document.holders refs :=
    List.mem_cons_self
  have own := contains_holder sound first slot
  have below := Branch.clearAmong_pruneAmong (goneBy refs) slot
    (fun other => (document.holders refs).contains (other, slot)) (.lead document.top.id)
    (if emptied (.lead document.top.id) then "" else document.top.lead)
    (Branch.blankAmong emptied document.top.children) (by
      rw [Branch.holdersAmong_blankAmong]
      exact fun held member => contains_holder sound (List.mem_cons_of_mem _ member) slot)
  rw [Branch.blankAmong_blankAmong] at below
  generalize (document.holders refs).contains = listed at own below ⊢
  obtain ⟨⟨id, kind, lead, children, tail⟩, isFragment, detached⟩ := document
  simp only [Branch.id, Branch.lead, Branch.children] at own below
  have front : (if emptied (.lead id) || listed (.lead id, slot) then "" else lead)
      = if slot = .lead id then "" else if emptied (.lead id) then "" else lead := by
    rw [own]
    by_cases same : slot = .lead id <;> simp [same]
  rw [Branch.blank, Branch.blank, Branch.prune_mk, Branch.prune_mk, Branch.clear, front]
  exact (congrArg (fun pair => Branch.mk id kind pair.fst pair.snd tail) below).symm

-----------------------------------------------------------------------------------------
-- Several removals
-----------------------------------------------------------------------------------------

theorem goneBy_element (id : Nat) (refs : List NodeRef)
    : goneBy (.element id :: refs) = fun number => goneBy refs number || number == id := by
  funext number
  rw [goneBy, List.contains_cons, Bool.or_comm]
  congr 1
  by_cases same : number = id <;> simp [same]

theorem goneBy_other {ref : NodeRef} (other : ∀ id, ref ≠ .element id) (refs : List NodeRef)
    : goneBy (ref :: refs) = goneBy refs := by
  funext number
  have apart : (NodeRef.element number == ref) = false := beq_eq_false_iff_ne.mpr (other number).symm
  rw [goneBy, List.contains_cons, apart, Bool.false_or]
  rfl

/-- The top after one more removal: elements that were taken away stay away, and what a removed slot
holds is emptied.
-/
theorem top_remove {original document : Document} (sound : original.Sound) (later : document.Sound)
    {before : List NodeRef} {emptied : Slot → Bool}
    (state : document.top = (original.top.blank emptied).prune (goneBy before)) (ref : NodeRef)
    : (document.remove ref).top
      = (original.top.blank fun slot =>
          emptied slot || original.takesOut before slot ref).prune (goneBy (ref :: before)) := by
  cases ref with
  | document =>
      simp only [takesOut, Bool.or_false]
      rw [goneBy_other (by simp)]
      exact state
  | element id =>
      simp only [takesOut, Bool.or_false]
      rw [remove, top_removeElement, state, goneBy_element]
      generalize original.top.blank emptied = top
      obtain ⟨number, kind, lead, children, tail⟩ := top
      rw [Branch.prune_mk, Branch.prune_mk, Branch.prune_mk, Branch.pruneAmong_pruneAmong]
  | text slot =>
      rw [top_removeText later, state, clear_prune sound, goneBy_other (by simp)]
      rfl

/-- The top after several removals, by induction on the removed nodes. -/
theorem top_removeAll {original document : Document} (sound : original.Sound)
    (later : document.Sound) {before : List NodeRef} {emptied : Slot → Bool}
    (state : document.top = (original.top.blank emptied).prune (goneBy before))
    (refs : List NodeRef)
    : (document.removeAll refs).top
      = (original.top.blank fun slot =>
          emptied slot || original.takeOut before slot refs).prune
            (goneBy (refs.reverse ++ before)) := by
  induction refs generalizing document before emptied with
  | nil =>
      simp only [takeOut, Bool.or_false]
      exact state
  | cons ref rest ih =>
      have next := ih (later.remove ref) (top_remove sound later state ref)
      simp only [Bool.or_assoc] at next
      simp only [takeOut, List.reverse_cons, List.append_assoc, List.singleton_append]
      exact next

/-- The text of a document is made of its texts. -/
theorem fullText_eq {document : Document} (sound : document.Sound)
    : document.fullText .document
      = document.top.lead ++ joined (Branch.textsAmong (fun _ => false) document.top.children) := by
  have plain : ∀ branch ∈ Branch.allAmong document.top.children, branch.Plain := by
    intro branch member
    exact sound.plain branch (Branch.mem_allAmong_cons.mpr (.inr (.inl member)))
  have element := sound.element
  obtain ⟨⟨id, kind, lead, children, tail⟩, isFragment, detached⟩ := document
  cases kind <;> simp [Branch.kind, Kind.isElement] at element
  rw [fullText, Branch.fullText, Branch.fullTextAmong_eq children plain]
  rfl

/-- The top after several removals from a document. -/
theorem top_removeAll_eq {document : Document} (sound : document.Sound) (refs : List NodeRef)
    : (document.removeAll refs).top
      = (document.top.blank fun slot => document.takeOut [] slot refs).prune (goneBy refs) := by
  have nothing : document.top = (document.top.blank fun _ => false).prune (goneBy []) := by
    obtain ⟨⟨id, kind, lead, children, tail⟩, isFragment, detached⟩ := document
    have absent : ∀ number ∈ Branch.numbers children, goneBy [] number = false := fun _ _ => rfl
    rw [Branch.blank, Branch.prune_mk, Branch.blankAmong_nothing,
      Branch.pruneAmong_of_absent _ children absent]
    rfl
  have order : goneBy (refs.reverse ++ []) = goneBy refs := by
    funext id
    simp [goneBy]
  have top := top_removeAll sound sound nothing refs
  simpa only [order, Bool.false_or] using top

/-- What several removals leave of the text of a document: the texts that are not inside of the removed
elements and were not taken out.
-/
theorem joined_textsLeft {document : Document} (reachable : document.Reachable)
    (refs : List NodeRef)
    : (document.removeAll refs).fullText .document = joined (document.textsLeft refs) := by
  rw [fullText_eq (reachable.removeAll refs).sound, top_removeAll_eq reachable.sound, textsLeft,
    textsOutside]
  generalize document.takeOut [] = takenOut
  obtain ⟨⟨id, kind, lead, children, tail⟩, isFragment, detached⟩ := document
  rw [Branch.blank, Branch.prune_mk]
  simp only [Branch.lead, Branch.children, Branch.id]
  rw [Branch.joined_pruneAmong, ← joined_cons (.lead id), ← joined_filter_nonempty]
  have kept := Branch.textsAmong_blankAmong (goneBy refs) (takenOut · refs) children
  exact congrArg joined (filter_emptied (takenOut · refs) (.lead id) lead kept)

end Document

end HtmlQuery
