import HtmlQuery.Text.Case

/-! Texts in lower case. No character is lowered to one that is lowered itself, so that a text in
lower case stays as it is.
-/

namespace HtmlQuery.Text

-----------------------------------------------------------------------------------------
-- Runs of letters
-----------------------------------------------------------------------------------------

namespace CaseTable

/-- Whether a run leads only to code points in front of another run, behind it or between its
members.
-/
def leadsOutside (run other : Nat × Nat × Nat × Int) : Bool :=
  -- Projections, because the kernel takes a pattern apart anew for each of the many pairs of runs.
  let low := ((run.1 : Int) + run.2.2.2).toNat
  let high := ((run.2.1 : Int) + run.2.2.2).toNat
  Nat.blt high other.1 || Nat.blt other.2.1 low
    || Nat.blt 0 low && (run.2.2.1 == 2 || run.1 == run.2.1) && other.2.2.1 == 2
      && (low + other.1) % 2 == 1

theorem shift?_eq_none_of_leadsOutside {run other : Nat × Nat × Nat × Int}
    (outside : leadsOutside run other = true) {n image : Nat} (sent : shift? run n = some image)
    : shift? other image = none := by
  obtain ⟨first, last, step, distance⟩ := run
  obtain ⟨first', last', step', distance'⟩ := other
  simp only [shift?, Option.ite_none_right_eq_some, Option.some.injEq, Bool.and_eq_true,
    decide_eq_true_eq, beq_iff_eq] at sent
  obtain ⟨⟨⟨lower, upper⟩, member⟩, rfl⟩ := sent
  simp only [leadsOutside, Bool.and_eq_true, Bool.or_eq_true, Nat.blt_eq, beq_iff_eq] at outside
  simp only [shift?, ite_eq_right_iff, reduceCtorEq, imp_false, Bool.and_eq_true,
    decide_eq_true_eq, beq_iff_eq]
  rintro ⟨⟨start, finish⟩, member'⟩
  obtain (front | behind) | ⟨⟨⟨positive, spread⟩, rfl⟩, odd⟩ := outside
  · omega
  · omega
  · rcases spread with rfl | rfl <;> omega

end CaseTable

-----------------------------------------------------------------------------------------
-- Lower-case characters
-----------------------------------------------------------------------------------------

/-- The characters that are not in lower case, as runs of a case table. -/
def unsettledRuns : List (Nat × Nat × Nat × Int) :=
  (0x41, 0x5A, 1, 32) :: (0x130, 0x130, 1, 0) :: lowerRuns.runs

/-- Characters that are lowered to themselves wherever they stand. -/
def Settled (c : Char) : Prop :=
  c.toNat ≠ 0x130 ∧ c.toNat ≠ 0x3A3 ∧ lowerChar c = c

instance (c : Char) : Decidable (Settled c) :=
  inferInstanceAs (Decidable (_ ∧ _ ∧ _))

/-- The case table leads to no character that is not in lower case. -/
theorem leadsOutside_unsettledRuns
    : (lowerRuns.runs.all fun run => unsettledRuns.all (CaseTable.leadsOutside run)) = true := by
  decide +kernel

theorem settled_lowerChar_ascii : ∀ n < 128, Settled (lowerChar (Char.ofNat n)) := by
  decide +kernel

theorem settled_ascii
    : ∀ n < 128, CaseTable.shift? (0x41, 0x5A, 1, 32) n = none → Settled (Char.ofNat n) := by
  decide +kernel

/-- What belongs to no such run is in lower case. -/
theorem settled_of_unsettledRuns {c : Char}
    (outside : ∀ run ∈ unsettledRuns, CaseTable.shift? run c.toNat = none)
    : Settled c := by
  have dotted : c.toNat ≠ 0x130 := by
    intro same
    have absent := outside (0x130, 0x130, 1, 0) (by simp [unsettledRuns])
    rw [same] at absent
    cases absent
  have sigma : c.toNat ≠ 0x3A3 := by
    intro same
    have absent := outside (0x3A3, 0x3AB, 1, 32) (by decide +kernel)
    rw [same] at absent
    cases absent
  by_cases small : c.toNat < 128
  · have settled := settled_ascii c.toNat small (outside _ (by simp [unsettledRuns]))
    rwa [Char.ofNat_toNat] at settled
  · refine ⟨dotted, sigma, ?_⟩
    have absent : lowerRuns.get? c = none := by
      rw [CaseTable.get?, Option.map_eq_none_iff, List.findSome?_eq_none_iff]
      intro run member
      exact outside run (by simp [unsettledRuns, member])
    simp [lowerChar, small, dotted, absent]

/-- The code point of a character is the given one, or it is none of a character. -/
theorem toNat_ofNat (n : Nat) : (Char.ofNat n).toNat = n ∨ Char.ofNat n = Char.ofNat 0 := by
  by_cases valid : n.isValidChar
  · left
    rw [Char.ofNat, dif_pos valid]
    rfl
  · right
    rw [Char.ofNat, dif_neg valid]
    rfl

/-- Letters are lowered to letters in lower case. -/
theorem settled_lowerChar {c : Char} (dotted : c.toNat ≠ 0x130) (sigma : c.toNat ≠ 0x3A3)
    : Settled (lowerChar c) := by
  by_cases small : c.toNat < 128
  · have settled := settled_lowerChar_ascii c.toNat small
    rwa [Char.ofNat_toNat] at settled
  · have sent : lowerChar c = (lowerRuns.get? c).getD c := by simp [lowerChar, small, dotted]
    cases found : lowerRuns.get? c with
    | none =>
        rw [found, Option.getD_none] at sent
        rw [sent]
        exact ⟨dotted, sigma, sent⟩
    | some d =>
        rw [sent, found, Option.getD_some]
        obtain ⟨image, member, rfl⟩ := Option.map_eq_some_iff.mp found
        obtain ⟨run, inside, leads⟩ := List.exists_of_findSome?_eq_some member
        rcases toNat_ofNat image with same | same
        · refine settled_of_unsettledRuns fun other unsettled => ?_
          rw [same]
          have outside := List.all_eq_true.mp
            (List.all_eq_true.mp leadsOutside_unsettledRuns run inside) other unsettled
          exact CaseTable.shift?_eq_none_of_leadsOutside outside leads
        · rw [same]
          decide

-----------------------------------------------------------------------------------------
-- Lower-case texts
-----------------------------------------------------------------------------------------

theorem settled_of_mem_lowerWithin {before after : List Char} {c d : Char}
    (member : d ∈ lowerWithin before c after)
    : Settled d := by
  unfold lowerWithin at member
  split at member
  · simp only [List.mem_cons, List.not_mem_nil, or_false] at member
    rcases member with rfl | rfl
    all_goals decide +kernel
  · rename_i dotted
    split at member
    · obtain rfl := List.mem_singleton.mp member
      split
      all_goals decide +kernel
    · rename_i sigma
      obtain rfl := List.mem_singleton.mp member
      exact settled_lowerChar (by simpa using dotted) (by simpa using sigma)

/-- A text is lowered to characters in lower case, by induction on it. -/
theorem settled_of_mem_lowerFrom {before text : List Char} {d : Char}
    (member : d ∈ lowerFrom before text)
    : Settled d := by
  induction text generalizing before with
  | nil => cases member
  | cons c rest ih =>
      rcases List.mem_append.mp member with here | behind
      · exact settled_of_mem_lowerWithin here
      · exact ih behind

/-- Characters in lower case stay as they are, by induction on them. -/
theorem lowerFrom_of_settled (before : List Char) {text : List Char}
    (settled : ∀ c ∈ text, Settled c)
    : lowerFrom before text = text := by
  induction text generalizing before with
  | nil => rfl
  | cons c rest ih =>
      obtain ⟨dotted, sigma, low⟩ := settled c List.mem_cons_self
      rw [lowerFrom, ih _ fun d member => settled d (List.mem_cons_of_mem c member), lowerWithin]
      simp [dotted, sigma, low]

-----------------------------------------------------------------------------------------
-- What letters are lowered to
-----------------------------------------------------------------------------------------

/-- What characters can be lowered to that aren't in lower case: letters of ASCII, and characters beyond
it but for the last two of their plane.
-/
def IsImage (c : Char) : Prop :=
  ('a'.toNat ≤ c.toNat ∧ c.toNat ≤ 'z'.toNat)
  ∨ (128 ≤ c.toNat ∧ c.toNat ≠ 0xFFFE ∧ c.toNat ≠ 0xFFFF)

instance (c : Char) : Decidable (IsImage c) :=
  inferInstanceAs (Decidable (_ ∨ _))

/-- Whether a run leads only to characters beyond ASCII, or it is that of the Kelvin sign. -/
def CaseTable.leadsBeyond (run : Nat × Nat × Nat × Int) : Bool :=
  let low := ((run.1 : Int) + run.2.2.2).toNat
  let high := ((run.2.1 : Int) + run.2.2.2).toNat
  Nat.blt 127 low && (Nat.blt high 0xD800
      || Nat.blt 0xDFFF low && (Nat.blt high 0xFFFE || Nat.blt 0xFFFF low && Nat.blt high 0x110000))
    || low == 0x6B && high == 0x6B

theorem leadsBeyond_lowerRuns : lowerRuns.runs.all CaseTable.leadsBeyond = true := by
  decide +kernel

/-- Such a run leads to characters beyond ASCII or to a `k`. -/
theorem CaseTable.toNat_of_leadsBeyond {run : Nat × Nat × Nat × Int} (beyond : leadsBeyond run = true)
    {n image : Nat} (sent : shift? run n = some image)
    : (128 ≤ (Char.ofNat image).toNat
        ∧ (Char.ofNat image).toNat ≠ 0xFFFE
        ∧ (Char.ofNat image).toNat ≠ 0xFFFF)
      ∨ Char.ofNat image = 'k' := by
  obtain ⟨first, last, step, distance⟩ := run
  simp only [shift?, Option.ite_none_right_eq_some, Option.some.injEq, Bool.and_eq_true,
    decide_eq_true_eq] at sent
  obtain ⟨⟨⟨lower, upper⟩, -⟩, rfl⟩ := sent
  simp only [leadsBeyond, Bool.and_eq_true, Bool.or_eq_true, Nat.blt_eq, beq_iff_eq] at beyond
  rcases beyond with ⟨large, valid⟩ | ⟨low, high⟩
  · left
    have character : ((n : Int) + distance).toNat.isValidChar := by
      rcases valid with below | ⟨above, bound | ⟨_, bound⟩⟩
      · exact .inl (by omega)
      · exact .inr (by omega)
      · exact .inr (by omega)
    have point : (Char.ofNat ((n : Int) + distance).toNat).toNat = ((n : Int) + distance).toNat := by
      rw [Char.ofNat, dif_pos character]
      rfl
    rw [point]
    omega
  · right
    have kelvin : ((n : Int) + distance).toNat = 0x6B := by omega
    rw [kelvin]

theorem eq_or_isImage_lowerChar_ascii
    : ∀ n < 128, lowerChar (Char.ofNat n) = Char.ofNat n ∨ IsImage (lowerChar (Char.ofNat n)) := by
  decide +kernel

/-- What a character is lowered to is the character itself or an image of others. -/
theorem eq_or_isImage_of_mem_lowerWithin {before after : List Char} {c d : Char}
    (member : d ∈ lowerWithin before c after)
    : d = c ∨ IsImage d := by
  unfold lowerWithin at member
  split at member
  · simp only [List.mem_cons, List.not_mem_nil, or_false] at member
    right
    rcases member with rfl | rfl
    all_goals decide +kernel
  · rename_i dotted
    split at member
    · obtain rfl := List.mem_singleton.mp member
      right
      split
      all_goals decide +kernel
    · obtain rfl := List.mem_singleton.mp member
      by_cases small : c.toNat < 128
      · have image := eq_or_isImage_lowerChar_ascii c.toNat small
        rwa [Char.ofNat_toNat] at image
      · rw [lowerChar, if_neg small, if_neg dotted]
        cases found : lowerRuns.get? c with
        | none => exact .inl rfl
        | some d =>
            right
            obtain ⟨image, member, rfl⟩ := Option.map_eq_some_iff.mp found
            obtain ⟨run, inside, leads⟩ := List.exists_of_findSome?_eq_some member
            rcases CaseTable.toNat_of_leadsBeyond
              (List.all_eq_true.mp leadsBeyond_lowerRuns run inside) leads with beyond | same
            · exact .inr beyond
            · rw [Option.getD_some, same]
              decide

-----------------------------------------------------------------------------------------
-- Words of ASCII letters
-----------------------------------------------------------------------------------------

/-- What isn't of ASCII is lowered to a character that isn't either, or to a `k`. -/
theorem exists_mem_lowerWithin_of_foreign (before after : List Char) {c : Char}
    (foreign : 128 ≤ c.toNat)
    : ∃ d ∈ lowerWithin before c after, 128 ≤ d.toNat ∨ d = 'k' := by
  unfold lowerWithin
  split
  · exact ⟨Char.ofNat 0x307, by simp, .inl (by decide)⟩
  · rename_i dotted
    split
    · refine ⟨_, List.mem_singleton_self _, .inl ?_⟩
      split
      all_goals decide
    · refine ⟨_, List.mem_singleton_self _, ?_⟩
      rw [lowerChar, if_neg (by omega), if_neg dotted]
      cases found : lowerRuns.get? c with
      | none => exact .inl foreign
      | some d =>
          obtain ⟨image, member, rfl⟩ := Option.map_eq_some_iff.mp found
          obtain ⟨run, inside, leads⟩ := List.exists_of_findSome?_eq_some member
          exact (CaseTable.toNat_of_leadsBeyond
            (List.all_eq_true.mp leadsBeyond_lowerRuns run inside) leads).imp_left And.left

/-- Beyond ASCII, nothing is an upper-case letter of ASCII. -/
theorem toLower_of_foreign {c : Char} (foreign : 128 ≤ c.toNat) : c.toLower = c := by
  have outside : ¬(c.val ≥ 'A'.val ∧ c.val ≤ 'Z'.val) := by
    rintro ⟨-, upper⟩
    have bound : c.toNat ≤ 0x5A := UInt32.le_iff_toNat_le.mp upper
    omega
  exact dif_neg outside

/-- What is lowered to a word of ASCII letters without a `k` is the same for letters of ASCII alone, by
induction on the text.
-/
theorem lowerFrom_eq_iff (before : List Char) {text word : List Char}
    (plain : ∀ d ∈ word, d.toNat < 128 ∧ d ≠ 'k')
    : lowerFrom before text = word ↔ text.map Char.toLower = word := by
  induction text generalizing before word with
  | nil => rfl
  | cons c rest ih =>
      rw [lowerFrom, List.map_cons]
      by_cases small : c.toNat < 128
      · have own : lowerWithin before c rest = [c.toLower] := by
          have dotted : c.toNat ≠ 0x130 := by omega
          have sigma : c.toNat ≠ 0x3A3 := by omega
          simp [lowerWithin, lowerChar, small, dotted, sigma]
        rw [own, List.singleton_append]
        cases word with
        | nil => simp
        | cons d others =>
            rw [List.cons.injEq, List.cons.injEq,
              ih _ fun other member => plain other (List.mem_cons_of_mem d member)]
      · have foreign : 128 ≤ c.toNat := by omega
        constructor
        · rintro rfl
          obtain ⟨d, member, other⟩ := exists_mem_lowerWithin_of_foreign before rest foreign
          obtain ⟨ascii, unlike⟩ := plain d (List.mem_append_left _ member)
          rcases other with other | same
          · omega
          · exact (unlike same).elim
        · rintro rfl
          have ascii := (plain c.toLower List.mem_cons_self).1
          rw [toLower_of_foreign foreign] at ascii
          omega

end HtmlQuery.Text

/-- A word of ASCII letters without a `k` is what a text is lowered to just if only letters of ASCII
are lowered.
-/
theorem String.lowered_eq_iff {text word : String}
    (plain : ∀ d ∈ word.toList, d.toNat < 128 ∧ d ≠ 'k')
    : text.lowered = word ↔ text.toLower = word := by
  have mapped : text.toLower.toList = text.toList.map Char.toLower := String.toList_map
  rw [← String.toList_inj, ← String.toList_inj, String.lowered, String.toList_ofList, mapped]
  exact HtmlQuery.Text.lowerFrom_eq_iff [] plain

/-- A text in lower case is its own lower-case form. -/
@[simp]
theorem String.lowered_lowered (text : String) : text.lowered.lowered = text.lowered := by
  have settled : ∀ c ∈ HtmlQuery.Text.lower text.toList, HtmlQuery.Text.Settled c :=
    fun c member => HtmlQuery.Text.settled_of_mem_lowerFrom member
  simp only [String.lowered, HtmlQuery.Text.lower, String.toList_ofList] at settled ⊢
  rw [HtmlQuery.Text.lowerFrom_of_settled [] settled]
