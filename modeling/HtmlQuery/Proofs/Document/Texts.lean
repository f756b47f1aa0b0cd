import HtmlQuery.Proofs.Document.Numbering

/-! The texts among siblings and what becomes of them. When elements are taken away, the texts behind
them are held by the slot in front; whoever empties a slot then empties all texts that it holds.
-/

namespace HtmlQuery

/-- The number of the branch that a slot belongs to. -/
def Slot.owner : Slot → Nat
  | lead owner => owner
  | tail owner => owner

/-- The concatenation of texts. -/
def joined (texts : List (Slot × String)) : String :=
  String.join (texts.map Prod.snd)

@[simp] theorem joined_nil : joined [] = "" := rfl

@[simp] theorem joined_cons (slot : Slot) (content : String) (texts : List (Slot × String))
    : joined ((slot, content) :: texts) = content ++ joined texts := by
  simp [joined]

@[simp] theorem joined_append (left right : List (Slot × String))
    : joined (left ++ right) = joined left ++ joined right := by
  simp [joined]

theorem joined_filter_nonempty (texts : List (Slot × String))
    : joined (texts.filter fun text => text.snd != "") = joined texts := by
  induction texts with
  | nil => rfl
  | cons text texts ih =>
      obtain ⟨slot, content⟩ := text
      by_cases empty : content = "" <;> simp [empty, ih]

/-- An emptied text is none, by what is behind it. -/
theorem filter_emptied (emptied : Slot → Bool) (slot : Slot) (content : String)
    {texts others : List (Slot × String)}
    (behind : others.filter (fun text => text.snd != "")
      = (texts.filter fun text => text.snd != "").filter fun text => !emptied text.fst)
    : ((slot, if emptied slot then "" else content) :: others).filter (fun text => text.snd != "")
      = (((slot, content) :: texts).filter fun text => text.snd != "").filter fun text =>
        !emptied text.fst := by
  cases gone : emptied slot <;> by_cases empty : content = "" <;> simp [gone, empty, behind]

namespace Branch

/-- The texts of some siblings in document order, without those inside of elements that are gone. -/
def textsAmong (gone : Nat → Bool) : List Branch → List (Slot × String)
  | [] => []
  | mk id _ lead children tail :: rest =>
      (if gone id then [] else (.lead id, lead) :: textsAmong gone children)
        ++ (.tail id, tail) :: textsAmong gone rest

/-- The slots of some siblings, each with the one that holds its text when elements are gone: what
was behind such an element is held by the slot in front of it.
-/
def holdersAmong (gone : Nat → Bool) (front : Slot) : List Branch → List (Slot × Slot)
  | [] => []
  | mk id _ _ children _ :: rest =>
      if gone id then (.tail id, front) :: holdersAmong gone front rest
      else
        (.lead id, .lead id) :: holdersAmong gone (.lead id) children
          ++ (.tail id, .tail id) :: holdersAmong gone (.tail id) rest

/-- Some siblings in which certain slots hold no text. -/
def blankAmong (emptied : Slot → Bool) : List Branch → List Branch
  | [] => []
  | mk id kind lead children tail :: rest =>
      mk id kind (if emptied (.lead id) then "" else lead) (blankAmong emptied children)
        (if emptied (.tail id) then "" else tail)
        :: blankAmong emptied rest

-----------------------------------------------------------------------------------------
-- Emptied slots
-----------------------------------------------------------------------------------------

/-- Slots are emptied in any order. -/
theorem blankAmong_blankAmong (first second : Slot → Bool)
    : (branches : List Branch) →
      blankAmong second (blankAmong first branches)
        = blankAmong (fun slot => first slot || second slot) branches
  | [] => by simp only [blankAmong]
  | mk id kind lead children tail :: rest => by
      rw [blankAmong, blankAmong, blankAmong, blankAmong_blankAmong first second children,
        blankAmong_blankAmong first second rest]
      cases first (.lead id) <;> cases first (.tail id) <;> simp

/-- Without anything to empty, siblings stay as they are. -/
theorem blankAmong_nothing
    : (branches : List Branch) → blankAmong (fun _ => false) branches = branches
  | [] => by rw [blankAmong]
  | mk id kind lead children tail :: rest => by
      rw [blankAmong, blankAmong_nothing children, blankAmong_nothing rest]
      rfl

/-- Emptied slots keep their places. -/
theorem holdersAmong_blankAmong (gone : Nat → Bool) (emptied : Slot → Bool)
    : (front : Slot) → (branches : List Branch) →
      holdersAmong gone front (blankAmong emptied branches) = holdersAmong gone front branches
  | front, [] => by rw [blankAmong]
  | front, mk id kind lead children tail :: rest => by
      rw [blankAmong, holdersAmong, holdersAmong,
        holdersAmong_blankAmong gone emptied front rest,
        holdersAmong_blankAmong gone emptied (.lead id) children,
        holdersAmong_blankAmong gone emptied (.tail id) rest]

/-- The texts that are left among siblings when slots are emptied, by induction on the siblings. -/
theorem textsAmong_blankAmong (gone : Nat → Bool) (emptied : Slot → Bool)
    : (branches : List Branch) →
      (textsAmong gone (blankAmong emptied branches)).filter (fun text => text.snd != "")
        = ((textsAmong gone branches).filter fun text => text.snd != "").filter fun text =>
          !emptied text.fst
  | [] => by simp [blankAmong, textsAmong]
  | mk id kind lead children tail :: rest => by
      have below := textsAmong_blankAmong gone emptied children
      have behind := textsAmong_blankAmong gone emptied rest
      rw [blankAmong, textsAmong, textsAmong, List.filter_append, List.filter_append,
        List.filter_append, filter_emptied emptied (.tail id) tail behind]
      cases gone id with
      | true => rfl
      | false =>
          simp only [Bool.false_eq_true, if_false]
          rw [filter_emptied emptied (.lead id) lead below]

-----------------------------------------------------------------------------------------
-- Elements taken away
-----------------------------------------------------------------------------------------

/-- Text in front of siblings stays in front of whatever they leave there, by induction on them. -/
theorem pruneAmong_append (gone : Nat → Bool) (text : String)
    : (front : String) → (branches : List Branch) →
      pruneAmong gone (text ++ front) branches
        = (text ++ (pruneAmong gone front branches).1, (pruneAmong gone front branches).2)
  | front, [] => by rw [pruneAmong, pruneAmong]
  | front, mk id kind lead children tail :: rest => by
      rw [pruneAmong, pruneAmong]
      split
      · rw [String.append_assoc, pruneAmong_append gone text (front ++ tail) rest]
      · rfl

/-- Taking elements away twice takes away both kinds of them, by induction on the siblings. -/
theorem pruneAmong_pruneAmong (first second : Nat → Bool)
    : (front : String) → (branches : List Branch) →
      pruneAmong second (pruneAmong first front branches).1 (pruneAmong first front branches).2
        = pruneAmong (fun id => first id || second id) front branches
  | front, [] => by simp only [pruneAmong]
  | front, mk id kind lead children tail :: rest => by
      have below := pruneAmong_pruneAmong first second lead children
      have behind := pruneAmong_pruneAmong first second tail rest
      conv_rhs => rw [pruneAmong]
      rw [pruneAmong.eq_2 first]
      cases earlier : first id with
      | true =>
          simp only [Bool.true_or, if_true]
          exact pruneAmong_pruneAmong first second (front ++ tail) rest
      | false =>
          simp only [Bool.false_or, Bool.false_eq_true, if_false]
          rw [pruneAmong]
          cases second id with
          | true =>
              simp only [if_true]
              rw [pruneAmong_append, pruneAmong_append, behind]
          | false =>
              simp only [Bool.false_eq_true, if_false]
              rw [below, behind]

/-- What is in front of siblings and in them after elements were taken away is what was there outside
of these elements, by induction on the siblings.
-/
theorem joined_pruneAmong (gone : Nat → Bool)
    : (front : String) → (branches : List Branch) →
      (pruneAmong gone front branches).1
          ++ joined (textsAmong (fun _ => false) (pruneAmong gone front branches).2)
        = front ++ joined (textsAmong gone branches)
  | front, [] => by simp [pruneAmong, textsAmong]
  | front, mk id kind lead children tail :: rest => by
      have below := joined_pruneAmong gone lead children
      have behind := joined_pruneAmong gone tail rest
      rw [pruneAmong, textsAmong]
      cases gone id with
      | true =>
          simp only [if_true, List.nil_append, joined_cons]
          rw [joined_pruneAmong gone (front ++ tail) rest, String.append_assoc]
      | false =>
          simp only [Bool.false_eq_true, if_false]
          rw [textsAmong]
          simp only [Bool.false_eq_true, if_false, joined_append, joined_cons]
          rw [behind, below]

/-- The text of some siblings is made of all their texts, by induction on the siblings. -/
theorem fullTextAmong_eq
    : (branches : List Branch) → (∀ branch ∈ allAmong branches, branch.Plain) →
      fullTextAmong branches = joined (textsAmong (fun _ => false) branches)
  | [], _ => by rw [fullTextAmong, textsAmong, joined_nil]
  | mk id kind lead children tail :: rest, plain => by
      have own := plain (mk id kind lead children tail) (mem_allAmong_cons.mpr (.inl rfl))
      have below := fullTextAmong_eq children fun branch member =>
        plain branch (mem_allAmong_cons.mpr (.inr (.inl member)))
      have behind := fullTextAmong_eq rest fun branch member =>
        plain branch (mem_allAmong_cons.mpr (.inr (.inr member)))
      have text : fullText (mk id kind lead children tail)
          = lead ++ joined (textsAmong (fun _ => false) children) := by
        cases element : kind.isElement with
        | true =>
            cases kind <;> simp [Kind.isElement] at element
            rw [fullText, below]
        | false =>
            obtain ⟨noLead, noChildren⟩ := own element
            simp only [Branch.lead, Branch.children] at noLead noChildren
            cases kind <;> simp [Kind.isElement] at element
            all_goals
              rw [noLead, noChildren, textsAmong, joined_nil, fullText]
              · rfl
              · rintro _ _ ⟨⟩
      rw [fullTextAmong, textsAmong, text, behind]
      simp only [Bool.false_eq_true, if_false, joined_append, joined_cons, Branch.tail,
        String.append_assoc]

-----------------------------------------------------------------------------------------
-- Slots emptied after elements were taken away
-----------------------------------------------------------------------------------------

/-- Emptying a slot after elements were taken away empties all slots whose texts it holds, by
induction on the siblings.
-/
theorem clearAmong_pruneAmong (gone : Nat → Bool) (slot : Slot) (emptied : Slot → Bool)
    : (front : Slot) → (text : String) → (branches : List Branch) →
      (∀ held ∈ holdersAmong gone front branches, emptied held.fst = decide (slot = held.snd)) →
      pruneAmong gone (if slot = front then "" else text) (blankAmong emptied branches)
        = (if slot = front then "" else (pruneAmong gone text branches).1,
          clearAmong slot (pruneAmong gone text branches).2)
  | front, text, [], _ => by rw [blankAmong, pruneAmong, pruneAmong, clearAmong]
  | front, text, mk id kind lead children tail :: rest, holders => by
      rw [holdersAmong] at holders
      rw [blankAmong, pruneAmong, pruneAmong]
      cases taken : gone id with
      | true =>
          simp only [taken, if_true] at holders ⊢
          have own : emptied (.tail id) = decide (slot = front) :=
            holders (.tail id, front) List.mem_cons_self
          have behind := clearAmong_pruneAmong gone slot emptied front (text ++ tail) rest
            fun held member => holders held (List.mem_cons_of_mem _ member)
          rw [← behind, own]
          by_cases same : slot = front <;> simp [same]
      | false =>
          simp only [taken, Bool.false_eq_true, if_false] at holders ⊢
          have own : emptied (.lead id) = decide (slot = .lead id) :=
            holders (.lead id, .lead id) (by simp)
          have last : emptied (.tail id) = decide (slot = .tail id) :=
            holders (.tail id, .tail id) (by simp)
          have below := clearAmong_pruneAmong gone slot emptied (.lead id) lead children
            fun held member => holders held (by simp [member])
          have behind := clearAmong_pruneAmong gone slot emptied (.tail id) tail rest
            fun held member => holders held (by simp [member])
          simp only [own, last, decide_eq_true_eq]
          rw [below, behind, clearAmong]

-----------------------------------------------------------------------------------------
-- One holder for each slot
-----------------------------------------------------------------------------------------

/-- A slot is listed at most as often as the number of its branch, by induction on the siblings. -/
theorem count_holdersAmong_le (gone : Nat → Bool) (slot : Slot)
    : (front : Slot) → (branches : List Branch) →
      ((holdersAmong gone front branches).map Prod.fst).count slot
        ≤ (numbers branches).count slot.owner
  | front, [] => by simp [holdersAmong]
  | front, mk id kind lead children tail :: rest => by
      have below := count_holdersAmong_le gone slot (.lead id) children
      have behind := count_holdersAmong_le gone slot (.tail id) rest
      have moved := count_holdersAmong_le gone slot front rest
      rw [holdersAmong, numbers_cons]
      cases slot with
      | lead owner =>
          cases gone id <;>
            simp [List.count_cons, Branch.id, Branch.children, Slot.owner] at below behind moved ⊢ <;>
            omega
      | tail owner =>
          cases gone id <;>
            simp [List.count_cons, Branch.id, Branch.children, Slot.owner] at below behind moved ⊢ <;>
            omega

end Branch

end HtmlQuery
