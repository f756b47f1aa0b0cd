import HtmlQuery.Proofs.Document.RemovedTexts

/-! When the removal of several nodes leaves exactly the unselected text. A coincidence does not count:
the same has to hold when texts of the document were removed before.
-/

namespace HtmlQuery

namespace Document

/-- The texts that are neither among some nodes nor inside of one. -/
def textsUnselected (document : Document) (refs : List NodeRef) : List (Slot × String) :=
  (document.textsOutside refs).filter fun text => !refs.contains (.text text.fst)

/-- Whether removing some nodes leaves the text that is neither among them nor inside of one. -/
def RemovesExactly (document : Document) (refs : List NodeRef) : Prop :=
  (document.removeAll refs).fullText .document = joined (document.textsUnselected refs)

/-- Whether removing some nodes takes each text outside of the removed elements out, by whatever slot
holds it when that slot's turn comes, just if the text is selected itself.
-/
def TakesOutSelected (document : Document) (refs : List NodeRef) : Prop :=
  ∀ text ∈ document.textsOutside refs,
    document.takeOut [] text.fst refs = refs.contains (.text text.fst)

end Document

-----------------------------------------------------------------------------------------
-- Texts that were removed before
-----------------------------------------------------------------------------------------

namespace Branch

theorem empty_or (slot own : Slot) (emptied : Bool) (text : String)
    : (if slot = own then "" else if emptied then "" else text)
      = if emptied || own == slot then "" else text := by
  by_cases same : slot = own
  · simp [same]
  · simp [same, Ne.symm same]

/-- A slot is emptied with others, by induction on the siblings. -/
theorem clearAmong_blankAmong (slot : Slot) (emptied : Slot → Bool)
    : (branches : List Branch) →
      clearAmong slot (blankAmong emptied branches)
        = blankAmong (fun other => emptied other || other == slot) branches
  | [] => by simp only [blankAmong, clearAmong]
  | mk id kind lead children tail :: rest => by
      simp only [blankAmong, clearAmong, empty_or, clearAmong_blankAmong slot emptied children,
        clearAmong_blankAmong slot emptied rest]

theorem clear_blank (slot : Slot) (emptied : Slot → Bool) (branch : Branch)
    : (branch.blank emptied).clear slot
      = branch.blank fun other => emptied other || other == slot := by
  obtain ⟨id, kind, lead, children, tail⟩ := branch
  simp only [blank, clear, empty_or, clearAmong_blankAmong]

end Branch

namespace Document

theorem top_eq_blank (document : Document)
    : document.top = document.top.blank fun _ => false := by
  obtain ⟨⟨id, kind, lead, children, tail⟩, isFragment, detached⟩ := document
  rw [Branch.blank, Branch.blankAmong_nothing]
  rfl

/-- Removing texts empties their slots, by induction on the slots. -/
theorem top_removeTexts {document later : Document} (sound : later.Sound) {emptied : Slot → Bool}
    (state : later.top = document.top.blank emptied) (slots : List Slot)
    : (later.removeAll (slots.map .text)).top
      = document.top.blank fun slot => emptied slot || slots.contains slot := by
  induction slots generalizing later emptied with
  | nil => simpa [removeAll] using state
  | cons slot slots ih =>
      have next : (later.remove (.text slot)).top
          = document.top.blank fun other => emptied other || other == slot := by
        rw [top_removeText sound, state, Branch.clear_blank]
      have others := ih (sound.remove (.text slot)) next
      simp only [List.contains_cons, ← Bool.or_assoc]
      exact others

variable {document other : Document} {emptied : Slot → Bool}

/-- Whatever texts are missing, the same slots hold what was behind removed elements. -/
theorem takeOut_of_top (top : other.top = document.top.blank emptied) (slot : Slot)
    (refs before : List NodeRef)
    : other.takeOut before slot refs = document.takeOut before slot refs := by
  have holders (refs : List NodeRef) : other.holders refs = document.holders refs := by
    obtain ⟨⟨id, kind, lead, children, tail⟩, isFragment, detached⟩ := document
    rw [Document.holders, Document.holders, top, Branch.blank]
    simp only [Branch.id, Branch.children, Branch.holdersAmong_blankAmong]
  induction refs generalizing before with
  | nil => rfl
  | cons ref rest ih =>
      rw [takeOut, takeOut, ih]
      cases ref with
      | text holder => rw [takesOut, takesOut, holders]
      | document => rfl
      | element id => rfl

/-- The texts outside of removed elements are the same but for those that are missing. -/
theorem textsOutside_of_top (top : other.top = document.top.blank emptied) (refs : List NodeRef)
    : other.textsOutside refs
      = (document.textsOutside refs).filter fun text => !emptied text.fst := by
  obtain ⟨⟨id, kind, lead, children, tail⟩, isFragment, detached⟩ := document
  rw [textsOutside, textsOutside, top, Branch.blank]
  exact filter_emptied emptied (.lead id) lead (Branch.textsAmong_blankAmong _ emptied children)

end Document

-----------------------------------------------------------------------------------------
-- Exact removals
-----------------------------------------------------------------------------------------

theorem joined_ne_empty {texts : List (Slot × String)} {text : Slot × String}
    (member : text ∈ texts) (full : text.snd ≠ "")
    : joined texts ≠ "" := by
  obtain ⟨before, after, rfl⟩ := List.append_of_mem member
  obtain ⟨slot, content⟩ := text
  simpa using fun _ same _ => full same

/-- Without the texts of all other slots, those of one slot are kept together or not at all. -/
theorem filter_others {texts : List (Slot × String)} {slot : Slot} {slots : List Slot}
    (others : ∀ text ∈ texts, slots.contains text.fst = (text.fst != slot)) (kept : Slot → Bool)
    : ((texts.filter fun text => !slots.contains text.fst).filter fun text => kept text.fst)
      = if kept slot then texts.filter fun text => text.fst == slot else [] := by
  have alone : texts.filter (fun text => !slots.contains text.fst)
      = texts.filter fun text => text.fst == slot := by
    apply List.filter_congr
    intro text member
    rw [others text member, bne, Bool.not_not]
  have constant : (texts.filter fun text => text.fst == slot).filter (fun text => kept text.fst)
      = (texts.filter fun text => text.fst == slot).filter fun _ => kept slot := by
    apply List.filter_congr
    intro text member
    rw [beq_iff_eq.mp (List.mem_filter.mp member).2]
  rw [alone, constant]
  cases kept slot <;> simp

/-- Texts that agree whatever texts are missing are kept alike: otherwise they differ when all but one
of them are missing.
-/
theorem joined_filter_eq_iff {texts : List (Slot × String)} (full : ∀ text ∈ texts, text.snd ≠ "")
    (first second : Slot → Bool)
    : (∀ slots : List Slot,
        joined ((texts.filter fun text => !slots.contains text.fst).filter fun text =>
            first text.fst)
          = joined ((texts.filter fun text => !slots.contains text.fst).filter fun text =>
            second text.fst))
      ↔ ∀ text ∈ texts, first text.fst = second text.fst := by
  constructor
  · intro same text member
    have only := same ((texts.map Prod.fst).filter fun slot => slot != text.fst)
    have others : ∀ other ∈ texts,
        ((texts.map Prod.fst).filter fun slot => slot != text.fst).contains other.fst
          = (other.fst != text.fst) := by
      intro other inside
      rw [Bool.eq_iff_iff, List.contains_iff_mem, List.mem_filter]
      exact and_iff_right (List.mem_map_of_mem inside)
    rw [filter_others others, filter_others others] at only
    have some : joined (texts.filter fun other => other.fst == text.fst) ≠ "" :=
      joined_ne_empty (List.mem_filter.mpr ⟨member, by simp⟩) (full text member)
    rcases kept : first text.fst with - | - <;> rcases kept' : second text.fst with - | -
    · rfl
    · rw [kept, kept', if_neg (by simp), if_pos rfl] at only
      exact (some only.symm).elim
    · rw [kept, kept', if_pos rfl, if_neg (by simp)] at only
      exact (some only).elim
    · rfl
  · intro same slots
    congr 1
    apply List.filter_congr
    intro text member
    exact same text (List.mem_filter.mp member).1

namespace Document

/--
What several removals leave of a document's text: the texts that are not inside of removed elements
and that no slot was holding when its turn came. The removal is exact, also when texts of the document
were removed before, if and only if these are the unselected texts.
-/
theorem fullText_removeAll {document : Document} (reachable : document.Reachable)
    (refs : List NodeRef)
    : (document.removeAll refs).fullText .document = joined (document.textsLeft refs)
      ∧ ((∀ slots : List Slot, (document.removeAll (slots.map .text)).RemovesExactly refs)
        ↔ document.TakesOutSelected refs) := by
  refine ⟨joined_textsLeft reachable refs, ?_⟩
  have nothing : document.top = document.top.blank fun _ => false := top_eq_blank document
  have full : ∀ text ∈ document.textsOutside refs, text.snd ≠ "" := by
    intro text member
    simpa using (List.mem_filter.mp member).2
  have exact (slots : List Slot)
      : (document.removeAll (slots.map .text)).RemovesExactly refs
        ↔ joined (((document.textsOutside refs).filter fun text => !slots.contains text.fst).filter
            fun text => !document.takeOut [] text.fst refs)
          = joined (((document.textsOutside refs).filter fun text => !slots.contains text.fst).filter
            fun text => !refs.contains (.text text.fst)) := by
    have top := top_removeTexts reachable.sound nothing slots
    simp only [Bool.false_or] at top
    rw [RemovesExactly, joined_textsLeft (reachable.removeAll _), textsLeft, textsUnselected,
      textsOutside_of_top top]
    simp only [takeOut_of_top top]
  simp only [exact]
  have alike := joined_filter_eq_iff full (fun slot => !document.takeOut [] slot refs)
    fun slot => !refs.contains (.text slot)
  simp only [Bool.not_inj_iff] at alike
  exact alike

/-- Elements don't take out any text outside of them. -/
theorem takeOut_elements (document : Document) (before : List NodeRef) (slot : Slot) (ids : List Nat)
    : document.takeOut before slot (ids.map .element) = false := by
  induction ids generalizing before with
  | nil => rfl
  | cons id ids ih =>
      rw [List.map_cons, takeOut, ih]
      rfl

/-- An element with an element between two texts. -/
def between : Document :=
  fragment [.element "div" [] [.text "a", .element "b" [] [.text "b"], .text "c"]]

theorem between_top
    : between.top
      = .mk 0 (.element "div" []) ""
        [.mk 1 (.element "div" []) "a" [.mk 2 (.element "b" []) "b" [] "c"] ""] "" := by
  cbv

/-- Removing the inner element leaves the texts around it. -/
theorem fullText_removeAll_inner
    : between.Reachable ∧ between.RemovesExactly [.element 2] := by
  have reachable : between.Reachable := .fragment _
  have texts : between.textsOutside [.element 2] = [(.lead 1, "a"), (.tail 2, "c")] := by
    simp [textsOutside, between_top, Branch.textsAmong, goneBy, Branch.id, Branch.lead,
      Branch.children]
  have always : ∀ slots : List Slot,
      (between.removeAll (slots.map .text)).RemovesExactly [.element 2] := by
    apply (fullText_removeAll reachable [.element 2]).2.mpr
    rw [TakesOutSelected, texts]
    intro text member
    rcases List.mem_pair.mp member with rfl | rfl <;> cbv
  exact ⟨reachable, always []⟩

/-- Removing all nodes in the outer element leaves a text: it is moved before its turn comes. -/
theorem not_removesExactly_children
    : (∀ ref ∈ between.along Tree.Place.children (.element 1),
        between.IsNode ref.ref ∧ between.isAttached ref.ref = true)
      ∧ ¬between.RemovesExactly ((between.along Tree.Place.children (.element 1)).map Node.ref) := by
  have children : between.along Tree.Place.children (.element 1)
      = [.text (.lead 1) "a", .element 2 "b" [], .text (.tail 2) "c"] := by cbv
  have left : (between.removeAll [.text (.lead 1), .element 2, .text (.tail 2)]).fullText .document
      = "c" := by cbv
  have unselected
      : between.textsUnselected [.text (.lead 1), .element 2, .text (.tail 2)] = [] := by
    simp [textsUnselected, textsOutside, between_top, Branch.textsAmong, goneBy, Branch.id,
      Branch.lead, Branch.children]
  rw [children]
  refine ⟨?_, ?_⟩
  · have top : between.top.id = 0 := by cbv
    intro node member
    simp only [List.mem_cons, List.not_mem_nil, or_false] at member
    rcases member with rfl | rfl | rfl
    · exact ⟨⟨by cbv, by simp [Node.ref]⟩, by cbv⟩
    · exact ⟨⟨by cbv, by simp [Node.ref, top]⟩, by cbv⟩
    · exact ⟨⟨by cbv, by simp [Node.ref]⟩, by cbv⟩
  · simp only [RemovesExactly, List.map_cons, List.map_nil, Node.ref, left, unselected]
    decide

end Document

end HtmlQuery
