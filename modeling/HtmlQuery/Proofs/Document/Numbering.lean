import Mathlib.Data.List.Nodup
import HtmlQuery.Document.Removal

/-! The states of documents. A document is made of content and then loses nodes; in all of its
states, the numbers of its branches are distinct and only elements hold anything.
-/

namespace HtmlQuery

/-- The states that a document can be in: it was made of some content, and any nodes were removed. -/
inductive Document.Reachable : Document → Prop
  | fragment (nodes : List Content) : Reachable (fragment nodes)
  | complete (tag : String) (attributes : List Attribute) (children : List Content)
    : Reachable (complete tag attributes children)
  | remove {document : Document} (reachable : Reachable document) (ref : NodeRef)
    : Reachable (document.remove ref)

namespace Branch

/-- Some branches and all branches below them, in document order. -/
def allAmong : List Branch → List Branch
  | [] => []
  | mk id kind lead children tail :: rest =>
      mk id kind lead children tail :: (allAmong children ++ allAmong rest)

/-- The numbers of some branches and of all below them. -/
def numbers (branches : List Branch) : List Nat :=
  (allAmong branches).map id

/-- Whether the branch is an element or holds nothing: comments have neither text nor children. -/
def Plain (branch : Branch) : Prop :=
  branch.kind.isElement = false → branch.lead = "" ∧ branch.children = []

@[simp] theorem numbers_nil : numbers [] = [] := by
  simp [numbers, allAmong]

@[simp] theorem numbers_cons (branch : Branch) (rest : List Branch)
    : numbers (branch :: rest) = branch.id :: (numbers branch.children ++ numbers rest) := by
  cases branch
  simp [numbers, allAmong, id, children]

theorem mem_allAmong_cons {branch first : Branch} {rest : List Branch}
    : branch ∈ allAmong (first :: rest)
      ↔ branch = first ∨ branch ∈ allAmong first.children ∨ branch ∈ allAmong rest := by
  cases first
  simp [allAmong, children]

/-- What is below one of the branches is among them. -/
theorem mem_allAmong_of_below {branch below : Branch} (inside : below ∈ allAmong branch.children)
    : (branches : List Branch) → branch ∈ allAmong branches → below ∈ allAmong branches
  | [], member => by simp [allAmong] at member
  | mk number kind lead children tail :: rest, member => by
      rcases mem_allAmong_cons.mp member with rfl | member | member
      · exact mem_allAmong_cons.mpr (.inr (.inl inside))
      · have found := mem_allAmong_of_below inside children member
        exact mem_allAmong_cons.mpr (.inr (.inl found))
      · have found := mem_allAmong_of_below inside rest member
        exact mem_allAmong_cons.mpr (.inr (.inr found))

/-- The branch with a number is the first one in document order that has it. -/
theorem findAmong?_eq (wanted : Nat)
    : (branches : List Branch) →
      findAmong? wanted branches = (allAmong branches).find? fun branch => branch.id == wanted
  | [] => by rw [findAmong?, allAmong, List.find?_nil]
  | mk number kind lead children tail :: rest => by
      rw [findAmong?, find?, findAmong?_eq wanted children, findAmong?_eq wanted rest, allAmong]
      by_cases same : number = wanted
      · rw [if_pos same, List.find?_cons_of_pos (by simpa [id] using same), Option.some_or]
      · rw [if_neg same, List.find?_cons_of_neg (by simpa [id] using same), List.find?_append]

theorem find?_eq (wanted : Nat) (branch : Branch)
    : find? wanted branch = findAmong? wanted [branch] := by
  rw [findAmong?, findAmong?, Option.or_none]

/-- With distinct numbers, each branch is the one with its number. -/
theorem findAmong?_eq_some {branches : List Branch} (distinct : (numbers branches).Nodup)
    {branch : Branch}
    : findAmong? branch.id branches = some branch ↔ branch ∈ allAmong branches := by
  rw [findAmong?_eq]
  constructor
  · exact List.mem_of_find?_eq_some
  · intro member
    obtain ⟨found, same⟩ : ∃ found,
        (allAmong branches).find? (fun other => other.id == branch.id) = some found :=
      Option.isSome_iff_exists.mp (List.find?_isSome.mpr ⟨branch, member, by simp⟩)
    have number : found.id = branch.id := by simpa using List.find?_some same
    rw [same, List.inj_on_of_nodup_map distinct (List.mem_of_find?_eq_some same) member number]

-----------------------------------------------------------------------------------------
-- New documents
-----------------------------------------------------------------------------------------

/-- Content is numbered without gaps in document order, by induction on the content. -/
theorem numbers_plant (next : Nat) (contents : List Content)
    : ∃ count,
        (Content.plant next contents).2.2 = next + count
        ∧ numbers (Content.plant next contents).2.1 = List.range' next count := by
  fun_induction Content.plant next contents with
  | case1 next => exact ⟨0, rfl, numbers_nil⟩
  | case2 next run rest front branches after planted ih => simpa only [planted] using ih
  | case3 next tag attributes children rest lead below afterBelow planted tail siblings afterAll
      planted' ih ih' =>
      simp only [planted, planted'] at ih ih'
      obtain ⟨inner, rfl, numbered⟩ := ih
      obtain ⟨outer, rfl, numbered'⟩ := ih'
      refine ⟨inner + outer + 1, by simp only; omega, ?_⟩
      rw [numbers_cons, List.range'_succ, ← List.range'_append_1]
      simp only [Branch.children, Branch.id, numbered, numbered']
  | case4 next body rest tail siblings afterAll planted ih =>
      simp only [planted] at ih
      obtain ⟨outer, rfl, numbered⟩ := ih
      refine ⟨outer + 1, by simp only; omega, ?_⟩
      rw [numbers_cons, List.range'_succ]
      simp only [Branch.children, Branch.id, numbered, numbers_nil, List.nil_append]
  | case5 next target body rest tail siblings afterAll planted ih =>
      simp only [planted] at ih
      obtain ⟨outer, rfl, numbered⟩ := ih
      refine ⟨outer + 1, by simp only; omega, ?_⟩
      rw [numbers_cons, List.range'_succ]
      simp only [Branch.children, Branch.id, numbered, numbers_nil, List.nil_append]

/-- Planted comments and instructions hold nothing, by induction on the content. -/
theorem plain_plant (next : Nat) (contents : List Content)
    : ∀ branch ∈ allAmong (Content.plant next contents).2.1, branch.Plain := by
  fun_induction Content.plant next contents with
  | case1 next => simp [allAmong]
  | case2 next run rest front branches after planted ih => simpa only [planted] using ih
  | case3 next tag attributes children rest lead below afterBelow planted tail siblings afterAll
      planted' ih ih' =>
      simp only [planted, planted'] at ih ih'
      intro branch member
      rcases mem_allAmong_cons.mp member with rfl | member | member
      · rintro ⟨⟩
      · exact ih branch member
      · exact ih' branch member
  | case4 next body rest tail siblings afterAll planted ih =>
      simp only [planted] at ih
      intro branch member
      rcases mem_allAmong_cons.mp member with rfl | member | member
      · exact fun _ => ⟨rfl, rfl⟩
      · simp [Branch.children, allAmong] at member
      · exact ih branch member
  | case5 next target body rest tail siblings afterAll planted ih =>
      simp only [planted] at ih
      intro branch member
      rcases mem_allAmong_cons.mp member with rfl | member | member
      · exact fun _ => ⟨rfl, rfl⟩
      · simp [Branch.children, allAmong] at member
      · exact ih branch member

-----------------------------------------------------------------------------------------
-- Removed elements
-----------------------------------------------------------------------------------------

/-- Without anything to take away, siblings stay as they are, by induction on them. -/
theorem pruneAmong_of_absent {gone : Nat → Bool} (front : String)
    : (branches : List Branch) → (∀ number ∈ numbers branches, gone number = false) →
      pruneAmong gone front branches = (front, branches)
  | [], _ => by rw [pruneAmong]
  | mk number kind lead children tail :: rest, absent => by
      rw [numbers_cons] at absent
      have own : gone number = false := absent number List.mem_cons_self
      have below := pruneAmong_of_absent lead children fun other member =>
        absent other (List.mem_cons_of_mem _ (List.mem_append_left _ member))
      have behind := pruneAmong_of_absent tail rest fun other member =>
        absent other (List.mem_cons_of_mem _ (List.mem_append_right _ member))
      rw [pruneAmong, own, below, behind]
      rfl

/-- A number that is found belongs to one of the branches. -/
theorem mem_numbers_of_findAmong? {wanted : Nat} {branches : List Branch} {branch : Branch}
    (found : findAmong? wanted branches = some branch)
    : branch ∈ allAmong branches ∧ branch.id = wanted ∧ wanted ∈ numbers branches := by
  rw [findAmong?_eq] at found
  have member := List.mem_of_find?_eq_some found
  have same : branch.id = wanted := by simpa using List.find?_some found
  exact ⟨member, same, same ▸ List.mem_map_of_mem member⟩

/-- A number that is not found belongs to no branch. -/
theorem not_mem_numbers_of_findAmong? {wanted : Nat} {branches : List Branch}
    (found : findAmong? wanted branches = none)
    : wanted ∉ numbers branches := by
  rw [findAmong?_eq, List.find?_eq_none] at found
  intro member
  obtain ⟨branch, inside, same⟩ := List.mem_map.mp member
  exact found branch inside (by simpa using same)

/-- Siblings without a certain number stay as they are. -/
theorem pruneAmong_of_not_mem {wanted : Nat} {branches : List Branch}
    (absent : wanted ∉ numbers branches) (front : String)
    : pruneAmong (· == wanted) front branches = (front, branches) := by
  apply pruneAmong_of_absent front branches
  intro number member
  rw [beq_eq_false_iff_ne]
  rintro rfl
  exact absent member

/-- The numbers that remain and those of the branch taken away make up all numbers, by induction on
the siblings.
-/
theorem numbers_pruneAmong {wanted : Nat} {branch : Branch}
    : (branches : List Branch) → (numbers branches).Nodup →
      findAmong? wanted branches = some branch → ∀ front,
      (numbers branches).Perm
        (numbers (pruneAmong (· == wanted) front branches).2 ++ numbers [branch])
  | [], _, found, _ => by
      rw [findAmong?] at found
      cases found
  | mk number kind lead children tail :: rest, distinct, found, front => by
      rw [numbers_cons, List.nodup_cons, List.nodup_append'] at distinct
      obtain ⟨own, distinct, distinct', apart⟩ := distinct
      simp only [Branch.children, Branch.id] at own distinct apart
      rw [findAmong?, find?] at found
      rw [List.perm_iff_count]
      intro other
      by_cases same : number = wanted
      · rw [if_pos same] at found
        cases found
        have absent : wanted ∉ numbers rest := by
          intro member
          exact own (same ▸ List.mem_append_right _ member)
        rw [pruneAmong, if_pos (by simpa using same), pruneAmong_of_not_mem absent]
        simp only [numbers_cons, numbers_nil, Branch.children, List.count_cons, List.count_append,
          List.count_nil]
        omega
      · rw [if_neg same] at found
        rw [pruneAmong, if_neg (by simpa using same)]
        cases inner : findAmong? wanted children with
        | some below =>
            rw [inner] at found
            cases found
            have absent : wanted ∉ numbers rest := by
              intro member
              exact apart (mem_numbers_of_findAmong? inner).2.2 member
            have kept := (numbers_pruneAmong children distinct inner lead).count_eq other
            rw [pruneAmong_of_not_mem absent]
            simp only [numbers_cons, numbers_nil, Branch.children, Branch.id, List.count_cons,
              List.count_append, List.count_nil] at kept ⊢
            omega
        | none =>
            rw [inner] at found
            have absent := not_mem_numbers_of_findAmong? inner
            have kept := (numbers_pruneAmong rest distinct' found tail).count_eq other
            rw [pruneAmong_of_not_mem absent]
            simp only [numbers_cons, numbers_nil, Branch.children, Branch.id, List.count_cons,
              List.count_append, List.count_nil] at kept ⊢
            omega

/-- What remains of comments and instructions still holds nothing, by induction on the siblings. -/
theorem plain_pruneAmong (gone : Nat → Bool)
    : (branches : List Branch) → (∀ branch ∈ allAmong branches, branch.Plain) → ∀ front,
      ∀ branch ∈ allAmong (pruneAmong gone front branches).2, branch.Plain
  | [], _, front, branch, member => by simp [pruneAmong, allAmong] at member
  | mk number kind lead children tail :: rest, plain, front, branch, member => by
      have own := plain (mk number kind lead children tail) (mem_allAmong_cons.mpr (.inl rfl))
      have below : ∀ branch ∈ allAmong children, branch.Plain := by
        intro branch member
        exact plain branch (mem_allAmong_cons.mpr (.inr (.inl member)))
      have behind : ∀ branch ∈ allAmong rest, branch.Plain := by
        intro branch member
        exact plain branch (mem_allAmong_cons.mpr (.inr (.inr member)))
      rw [pruneAmong] at member
      split at member
      · exact plain_pruneAmong gone rest behind _ branch member
      · rcases mem_allAmong_cons.mp member with rfl | member | member
        · intro other
          obtain ⟨noLead, noChildren⟩ := own other
          simp only [Branch.lead, Branch.children] at noLead noChildren ⊢
          rw [noLead, noChildren, pruneAmong]
          exact ⟨rfl, rfl⟩
        · exact plain_pruneAmong gone children below _ branch member
        · exact plain_pruneAmong gone rest behind _ branch member

-----------------------------------------------------------------------------------------
-- Cleared texts
-----------------------------------------------------------------------------------------

/-- Clearing texts keeps all numbers. -/
theorem numbers_clearAmong (slot : Slot)
    : (branches : List Branch) → numbers (clearAmong slot branches) = numbers branches
  | [] => by rw [clearAmong]
  | mk number kind lead children tail :: rest => by
      rw [clearAmong, numbers_cons, numbers_cons]
      simp only [Branch.id, Branch.children]
      rw [numbers_clearAmong slot children, numbers_clearAmong slot rest]

/-- Cleared comments and instructions still hold nothing. -/
theorem plain_clearAmong (slot : Slot)
    : (branches : List Branch) → (∀ branch ∈ allAmong branches, branch.Plain) →
      ∀ branch ∈ allAmong (clearAmong slot branches), branch.Plain
  | [], _, branch, member => by simp [clearAmong, allAmong] at member
  | mk number kind lead children tail :: rest, plain, branch, member => by
      have own := plain (mk number kind lead children tail) (mem_allAmong_cons.mpr (.inl rfl))
      rw [clearAmong] at member
      rcases mem_allAmong_cons.mp member with rfl | member | member
      · intro other
        obtain ⟨noLead, noChildren⟩ := own other
        simp only [Branch.lead, Branch.children] at noLead noChildren ⊢
        rw [noLead, noChildren, clearAmong, ite_self]
        exact ⟨rfl, rfl⟩
      · exact plain_clearAmong slot children
          (fun branch member => plain branch (mem_allAmong_cons.mpr (.inr (.inl member))))
          branch member
      · exact plain_clearAmong slot rest
          (fun branch member => plain branch (mem_allAmong_cons.mpr (.inr (.inr member))))
          branch member

end Branch

-----------------------------------------------------------------------------------------
-- All states
-----------------------------------------------------------------------------------------

namespace Document

/-- What holds in all states of a document. -/
structure Sound (document : Document) : Prop where
  /-- No number is given twice. -/
  distinct : (Branch.numbers document.branches).Nodup
  /-- Comments and instructions hold nothing. -/
  plain : ∀ branch ∈ Branch.allAmong document.branches, branch.Plain
  /-- At the top stands an element with nothing behind it. -/
  element : document.top.kind.isElement = true
  last : document.top.tail = ""

/-- No number is given twice at or below the top. -/
theorem Sound.distinct_top {document : Document} (sound : document.Sound)
    : (Branch.numbers [document.top]).Nodup := by
  have all := sound.distinct
  rw [branches, Branch.numbers_cons, ← List.cons_append, List.nodup_append'] at all
  simpa using all.1

/-- Planted content below an element makes a sound document. -/
theorem sound_of_plant (tag : String) (attributes : List Attribute) (isFragment : Bool)
    (contents : List Content)
    : Sound {
        top := .mk 0 (.element tag attributes) (Content.plant 1 contents).1
          (Content.plant 1 contents).2.1 ""
        isFragment := isFragment
        detached := []
      } := by
  obtain ⟨count, -, numbered⟩ := Branch.numbers_plant 1 contents
  refine ⟨?_, ?_, rfl, rfl⟩
  · simp only [branches, Branch.numbers_cons, Branch.numbers_nil, Branch.id, Branch.children,
      numbered, List.append_nil, List.nodup_cons]
    exact ⟨by simp, List.nodup_range' 1⟩
  · intro branch member
    rcases Branch.mem_allAmong_cons.mp member with rfl | member | member
    · rintro ⟨⟩
    · exact Branch.plain_plant 1 contents branch member
    · simp [Branch.allAmong] at member

/-- Taking an element out keeps a document sound. -/
theorem Sound.removeElement {document : Document} (sound : document.Sound) (id : Nat)
    : (document.removeElement id).Sound := by
  unfold Document.removeElement
  cases found : Branch.findAmong? id document.top.children with
  | none => exact sound
  | some branch =>
      obtain ⟨⟨number, kind, lead, children, tail⟩, isFragment, detached⟩ := document
      obtain ⟨number', kind', lead', children', tail'⟩ := branch
      obtain ⟨distinct, plain, element, last⟩ := sound
      simp only [branches, Branch.numbers_cons, Branch.id, Branch.children] at distinct found plain
      have below : (Branch.numbers children).Nodup :=
        (List.nodup_append'.mp (List.nodup_cons.mp distinct).2).1
      refine ⟨?_, ?_, element, last⟩
      · refine (List.Perm.nodup_iff ?_).mp distinct
        have kept := Branch.numbers_pruneAmong children below found lead
        rw [List.perm_iff_count] at kept ⊢
        intro other
        have kept := kept other
        simp only [branches, Branch.prune, Branch.withTail, Branch.numbers_cons,
          Branch.numbers_nil, Branch.id, Branch.children, List.count_cons, List.count_append,
          List.count_nil] at kept ⊢
        omega
      · have inside : ∀ branch ∈ Branch.allAmong children, branch.Plain := fun branch member =>
          plain branch (Branch.mem_allAmong_cons.mpr (.inr (.inl member)))
        have taken := (Branch.mem_numbers_of_findAmong? found).1
        intro branch member
        rw [branches, Branch.mem_allAmong_cons, Branch.mem_allAmong_cons] at member
        rcases member with rfl | member | rfl | member | member
        · exact fun other => absurd (element.symm.trans other) (by decide)
        · exact Branch.plain_pruneAmong _ children inside lead branch member
        · have own := inside _ taken
          exact own
        · refine inside branch (Branch.mem_allAmong_of_below ?_ children taken)
          exact member
        · exact plain branch (Branch.mem_allAmong_cons.mpr (.inr (.inr member)))

/-- Taking a text out keeps a document sound. -/
theorem Sound.clear {document : Document} (sound : document.Sound) (slot : Slot)
    : Sound { document with top := document.top.clear slot } := by
  obtain ⟨⟨number, kind, lead, children, tail⟩, isFragment, detached⟩ := document
  obtain ⟨distinct, plain, element, last⟩ := sound
  simp only [branches, Branch.numbers_cons, Branch.id, Branch.children] at distinct plain
  refine ⟨?_, ?_, element, last⟩
  · simpa only [branches, Branch.clear, Branch.numbers_cons, Branch.id, Branch.children,
      Branch.numbers_clearAmong] using distinct
  · intro branch member
    rcases Branch.mem_allAmong_cons.mp member with rfl | member | member
    · exact fun other => absurd (element.symm.trans other) (by decide)
    · refine Branch.plain_clearAmong slot children (fun branch member => ?_) branch member
      exact plain branch (Branch.mem_allAmong_cons.mpr (.inr (.inl member)))
    · exact plain branch (Branch.mem_allAmong_cons.mpr (.inr (.inr member)))

/-- Taking any node out keeps a document sound. -/
theorem Sound.remove {document : Document} (sound : document.Sound) (ref : NodeRef)
    : (document.remove ref).Sound := by
  cases ref with
  | document => exact sound
  | element id => exact sound.removeElement id
  | text slot =>
      rw [Document.remove]
      split
      · exact sound.clear slot
      · exact sound

/-- All states of documents are sound, by induction on what was removed. -/
theorem Reachable.sound {document : Document} (reachable : document.Reachable)
    : document.Sound := by
  induction reachable with
  | fragment nodes => exact sound_of_plant "div" [] true nodes
  | complete tag attributes children => exact sound_of_plant tag attributes false children
  | remove _ ref ih => exact ih.remove ref

/-- Removing several nodes leads to a further state. -/
theorem Reachable.removeAll {document : Document} (reachable : document.Reachable)
    (refs : List NodeRef)
    : (document.removeAll refs).Reachable := by
  induction refs generalizing document with
  | nil => exact reachable
  | cons ref rest ih => exact ih (reachable.remove ref)

/-- Fragments stay fragments, whatever is removed. -/
theorem isFragment_remove (document : Document) (ref : NodeRef)
    : (document.remove ref).isFragment = document.isFragment := by
  cases ref with
  | document => rfl
  | element id =>
      rw [remove, removeElement]
      split <;> rfl
  | text slot =>
      rw [remove]
      split <;> rfl

theorem isFragment_removeAll (document : Document) (refs : List NodeRef)
    : (document.removeAll refs).isFragment = document.isFragment := by
  induction refs generalizing document with
  | nil => rfl
  | cons ref rest ih => exact (ih (document.remove ref)).trans (isFragment_remove document ref)

end Document

end HtmlQuery
