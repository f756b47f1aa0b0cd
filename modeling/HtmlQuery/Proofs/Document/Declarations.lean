import Mathlib.Data.List.Basic
import HtmlQuery.Document.Markup

/-! Texts without declarations. Declarations that are taken out of several texts one by one are those
that are taken out of all of them in one go, just if each of them ends in the text that it begins in.
-/

namespace HtmlQuery.Markup

variable {c : Char} {rest text front back last : List Char} {isOpen : Bool}

-----------------------------------------------------------------------------------------
-- Beginnings
-----------------------------------------------------------------------------------------

/-- Whether a text holds the beginning of a declaration. -/
def Declares (text : List Char) : Prop :=
  declarationStart <:+: text

/-- Whether every declaration that begins in a text also ends there. -/
def Settled (text : List Char) : Prop :=
  ∀ rest, rest <:+ text → declarationStart <+: rest → '>' ∈ rest

/-- Whether the declarations that begin in a text, with another one behind it, end in the text. -/
def Closed (front back : List Char) : Prop :=
  ∀ rest, rest <:+ front → rest ≠ [] →
    beginsDeclaration (rest ++ back) = true → beginsDeclaration rest = true

theorem beginsDeclaration_iff
    : beginsDeclaration text = true ↔ declarationStart <+: text ∧ '>' ∈ text := by
  simp [beginsDeclaration]

theorem declarationStart_eq
    : ∃ name, declarationStart = '<' :: name ∧ '<' ∉ name ∧ '>' ∉ declarationStart :=
  ⟨declarationStart.tail, by decide +kernel, by decide +kernel, by decide +kernel⟩

theorem ne_nil_of_starts (starts : declarationStart <+: text) : text ≠ [] := by
  rintro rfl
  exact absurd (List.prefix_nil.mp starts) (by decide +kernel)

/-- A declaration begins with `<`, and its end is somewhere behind. -/
theorem begins_cons (begins : beginsDeclaration (c :: rest) = true) : c = '<' ∧ '>' ∈ rest := by
  obtain ⟨name, shape, -, -⟩ := declarationStart_eq
  obtain ⟨starts, ends⟩ := beginsDeclaration_iff.mp begins
  rw [shape] at starts
  obtain rfl := (List.cons_prefix_cons.mp starts).1
  exact ⟨rfl, (List.mem_cons.mp ends).resolve_left (by decide)⟩

theorem begins_append (begins : beginsDeclaration front = true) (back : List Char)
    : beginsDeclaration (front ++ back) = true := by
  obtain ⟨starts, ends⟩ := beginsDeclaration_iff.mp begins
  exact beginsDeclaration_iff.mpr
    ⟨starts.trans (List.prefix_append front back), List.mem_append_left back ends⟩

theorem not_begins_of_append (plain : beginsDeclaration (front ++ back) = false)
    : beginsDeclaration front = false := by
  rw [← Bool.not_eq_true] at plain ⊢
  exact fun begins => plain (begins_append begins back)

/-- A text that is open to what stands behind it holds no end. -/
theorem not_mem_of_unclosed (begins : beginsDeclaration (front ++ back) = true)
    (unclosed : ¬beginsDeclaration front = true)
    : '>' ∉ front := by
  obtain ⟨name, -, -, noEnd⟩ := declarationStart_eq
  intro ends
  have starts := (beginsDeclaration_iff.mp begins).1
  rcases List.prefix_or_prefix_of_prefix starts (List.prefix_append front back) with inside | short
  · exact unclosed (beginsDeclaration_iff.mpr ⟨inside, ends⟩)
  · exact noEnd (short.subset ends)

-----------------------------------------------------------------------------------------
-- What is left of a text
-----------------------------------------------------------------------------------------

theorem outside_of_begins (begins : beginsDeclaration (c :: rest) = true)
    : outside false (c :: rest) = outside true rest := by
  rw [outside, begins]

theorem outside_of_not_begins (plain : beginsDeclaration (c :: rest) = false)
    : outside false (c :: rest) = c :: outside false rest := by
  rw [outside, plain]

/-- Characters are left out at most, by induction on the text. -/
theorem length_outside_le (isOpen : Bool) (text : List Char)
    : (outside isOpen text).length ≤ text.length := by
  induction text generalizing isOpen with
  | nil => cases isOpen <;> exact Nat.le_refl 0
  | cons c rest ih =>
      cases isOpen with
      | true => exact Nat.le_succ_of_le (ih _)
      | false =>
          cases begins : beginsDeclaration (c :: rest) with
          | true =>
              rw [outside_of_begins begins]
              exact Nat.le_succ_of_le (ih true)
          | false =>
              rw [outside_of_not_begins begins]
              exact Nat.succ_le_succ (ih false)

/-- Where no declaration begins, nothing is left out. -/
theorem outside_eq_self (plain : ∀ rest, rest <:+ text → beginsDeclaration rest = false)
    : outside false text = text := by
  induction text with
  | nil => rfl
  | cons c rest ih =>
      rw [outside_of_not_begins (plain _ (List.suffix_refl _)),
        ih fun rest' behind => plain rest' (behind.trans (List.suffix_cons c rest))]

/-- Where a declaration begins, something is left out, by induction on the text in front of it. -/
theorem length_outside_lt (behind : rest <:+ text) (begins : beginsDeclaration rest = true)
    : (outside false text).length < text.length := by
  induction text with
  | nil =>
      obtain rfl := List.suffix_nil.mp behind
      exact absurd begins (by decide +kernel)
  | cons c others ih =>
      cases first : beginsDeclaration (c :: others) with
      | true =>
          rw [outside_of_begins first]
          exact Nat.lt_succ_of_le (length_outside_le true others)
      | false =>
          rcases List.suffix_cons_iff.mp behind with rfl | behind
          · rw [first] at begins
            cases begins
          · rw [outside_of_not_begins first]
            exact Nat.succ_lt_succ (ih behind)

/-- With a declaration open in front of it, no more is left of a text, by induction on it. -/
theorem length_outside_open_le (text : List Char)
    : (outside true text).length ≤ (outside false text).length := by
  induction text with
  | nil => exact Nat.le_refl 0
  | cons c rest ih =>
      cases begins : beginsDeclaration (c :: rest) with
      | true =>
          obtain ⟨rfl, -⟩ := begins_cons begins
          rw [outside_of_begins begins]
          exact Nat.le_refl _
      | false =>
          rw [outside_of_not_begins begins, outside, List.length_cons]
          cases c != '>' with
          | true => exact Nat.le_succ_of_le ih
          | false => exact Nat.le_succ _

-----------------------------------------------------------------------------------------
-- Two texts
-----------------------------------------------------------------------------------------

/-- In one go, no more is left of two texts than one by one, by induction on the first one. -/
theorem length_outside_append_le (isOpen : Bool) (front back : List Char)
    : (outside isOpen (front ++ back)).length
      ≤ (outside isOpen front).length + (outside false back).length := by
  induction front generalizing isOpen with
  | nil =>
      cases isOpen with
      | true => simpa [outside] using length_outside_open_le back
      | false => simp [outside]
  | cons c rest ih =>
      cases isOpen with
      | true => exact ih _
      | false =>
          rw [List.cons_append]
          cases whole : beginsDeclaration (c :: (rest ++ back)) with
          | true =>
              rw [outside_of_begins whole]
              cases own : beginsDeclaration (c :: rest) with
              | true =>
                  rw [outside_of_begins own]
                  exact ih true
              | false =>
                  have less := Nat.le_trans (length_outside_open_le (rest ++ back)) (ih false)
                  rw [outside_of_not_begins own, List.length_cons]
                  omega
          | false =>
              have own : beginsDeclaration (c :: rest) = false := not_begins_of_append whole
              have others := ih false
              rw [outside_of_not_begins whole, outside_of_not_begins own, List.length_cons,
                List.length_cons]
              omega

/-- If a declaration goes on from the first text to the second one, less is left of them in one go,
by induction on the first text; a declaration that is open in front of it must end in it.
-/
theorem length_outside_append_lt (isOpen : Bool) (behind : rest <:+ front) (some : rest ≠ [])
    (begins : beginsDeclaration (rest ++ back) = true)
    (unclosed : ¬beginsDeclaration rest = true) (ends : isOpen = true → '>' ∈ front)
    : (outside isOpen (front ++ back)).length
      < (outside isOpen front).length + (outside false back).length := by
  have noEnd := not_mem_of_unclosed begins unclosed
  induction front generalizing isOpen with
  | nil => exact (some (List.suffix_nil.mp behind)).elim
  | cons c others ih =>
      cases isOpen with
      | true =>
          have among := ends rfl
          have behind' : rest <:+ others :=
            (List.suffix_cons_iff.mp behind).resolve_left fun same => noEnd (same ▸ among)
          refine ih _ behind' fun stays => (List.mem_cons.mp among).resolve_left ?_
          rintro rfl
          cases stays
      | false =>
          rw [List.cons_append]
          cases whole : beginsDeclaration (c :: (others ++ back)) with
          | true =>
              rw [outside_of_begins whole]
              cases own : beginsDeclaration (c :: others) with
              | true =>
                  rw [outside_of_begins own]
                  have among := (begins_cons own).2
                  refine ih true ((List.suffix_cons_iff.mp behind).resolve_left ?_) fun _ => among
                  rintro rfl
                  exact noEnd (List.mem_cons_of_mem c among)
              | false =>
                  have less := Nat.le_trans (length_outside_open_le (others ++ back))
                    (length_outside_append_le false others back)
                  rw [outside_of_not_begins own, List.length_cons]
                  omega
          | false =>
              have own : beginsDeclaration (c :: others) = false := not_begins_of_append whole
              have behind' : rest <:+ others := by
                refine (List.suffix_cons_iff.mp behind).resolve_left ?_
                rintro rfl
                rw [List.cons_append, whole] at begins
                cases begins
              have others' := ih false behind' (by simp)
              rw [outside_of_not_begins whole, outside_of_not_begins own, List.length_cons,
                List.length_cons]
              omega

/-- Declarations that end in the text that they begin in are taken out of two texts alike, by
induction on the first one.
-/
theorem outside_append (closed : Closed front back) (ends : isOpen = true → '>' ∈ front)
    : outside isOpen (front ++ back) = outside isOpen front ++ outside false back := by
  induction front generalizing isOpen with
  | nil =>
      cases isOpen with
      | true => cases ends rfl
      | false => rfl
  | cons c rest ih =>
      have closed' : Closed rest back := fun others behind =>
        closed others (behind.trans (List.suffix_cons c rest))
      cases isOpen with
      | true =>
          refine ih closed' fun stays => (List.mem_cons.mp (ends rfl)).resolve_left ?_
          rintro rfl
          cases stays
      | false =>
          have first := closed _ (List.suffix_refl _) (List.cons_ne_nil c rest)
          rw [List.cons_append] at first ⊢
          cases whole : beginsDeclaration (c :: (rest ++ back)) with
          | true =>
              have own := first whole
              rw [outside_of_begins whole, outside_of_begins own]
              exact ih closed' fun _ => (begins_cons own).2
          | false =>
              have own : beginsDeclaration (c :: rest) = false := not_begins_of_append whole
              rw [outside_of_not_begins whole, outside_of_not_begins own, ih closed' (by simp),
                List.cons_append]

-----------------------------------------------------------------------------------------
-- Where declarations end
-----------------------------------------------------------------------------------------

/-- Behind `>`, nothing is open any more. -/
theorem closed_of_last (ending : front.getLast? = some '>') (back : List Char)
    : Closed front back := by
  intro rest behind some begins
  refine Decidable.byContradiction fun unclosed => ?_
  refine not_mem_of_unclosed begins unclosed (List.mem_of_getLast? ?_)
  obtain ⟨others, rfl⟩ := behind
  rwa [List.getLast?_append_of_ne_nil _ some] at ending

/-- What ends with `>` leaves it to the text behind it whether all declarations end. -/
theorem settled_append_iff (ending : front.getLast? = some '>')
    : Settled (front ++ back) ↔ Settled back := by
  refine ⟨fun settled rest behind => settled rest (behind.trans (List.suffix_append front back)),
    fun settled rest behind starts => ?_⟩
  rcases List.suffix_or_suffix_of_suffix behind (List.suffix_append front back) with inside | around
  · exact settled rest inside starts
  · obtain ⟨others, rfl⟩ := around
    obtain ⟨before, same⟩ := behind
    rw [← List.append_assoc, List.append_cancel_right_eq] at same
    cases others with
    | nil => exact settled _ (List.suffix_refl _) starts
    | cons c others =>
        rw [← same, List.getLast?_append_of_ne_nil _ (List.cons_ne_nil c others)] at ending
        exact List.mem_append_left _ (List.mem_of_getLast? ending)

theorem not_declares_of_not_mem (plain : '<' ∉ text) : ¬Declares text := by
  obtain ⟨name, shape, -, -⟩ := declarationStart_eq
  intro declares
  rw [Declares, shape] at declares
  exact plain (declares.subset List.mem_cons_self)

theorem settled_of_not_declares (plain : ¬Declares text) : Settled text :=
  fun _ behind starts => (plain (List.infix_iff_prefix_suffix.mpr ⟨_, starts, behind⟩)).elim

theorem outside_of_not_declares (plain : ¬Declares text) : outside false text = text := by
  refine outside_eq_self fun rest behind => ?_
  rw [← Bool.not_eq_true, beginsDeclaration_iff]
  exact fun begins => plain (List.infix_iff_prefix_suffix.mpr ⟨rest, begins.1, behind⟩)

/-- In front of a tag, declarations that aren't closed in a text end in the tag. -/
theorem closed_iff_settled (head : back.head? = some '<') (ends : '>' ∈ back)
    : Closed front back ↔ Settled front := by
  obtain ⟨name, shape, inner, -⟩ := declarationStart_eq
  constructor
  · intro closed rest behind starts
    have begins := beginsDeclaration_iff.mpr
      ⟨starts.trans (List.prefix_append rest back), List.mem_append_right rest ends⟩
    exact (beginsDeclaration_iff.mp (closed rest behind (ne_nil_of_starts starts) begins)).2
  · intro settled rest behind some begins
    have whole := (beginsDeclaration_iff.mp begins).1
    rcases List.prefix_or_prefix_of_prefix whole (List.prefix_append rest back) with starts | short
    · exact beginsDeclaration_iff.mpr ⟨starts, settled rest behind starts⟩
    · obtain ⟨more, same⟩ := short
      rw [← same, List.prefix_append_right_inj] at whole
      cases more with
      | nil =>
          rw [List.append_nil] at same
          exact beginsDeclaration_iff.mpr
            ⟨same ▸ List.prefix_refl rest, settled rest behind (same ▸ List.prefix_refl rest)⟩
      | cons c more =>
          -- the beginning would go on with the tag, whose first character only stands at its front
          obtain ⟨others, rfl⟩ := whole
          obtain rfl : c = '<' := Option.some.inj head
          cases rest with
          | nil => exact (some rfl).elim
          | cons first rest =>
              rw [shape, List.cons_append, List.cons.injEq] at same
              exact (inner (same.2 ▸ List.mem_append_right rest List.mem_cons_self)).elim

/-- A text that ends with `>` stays as it is just if it holds no beginning. -/
theorem outside_eq_self_iff (ending : text.getLast? = some '>')
    : outside false text = text ↔ ¬Declares text := by
  refine ⟨fun same declares => ?_, outside_of_not_declares⟩
  obtain ⟨rest, starts, behind⟩ := List.infix_iff_prefix_suffix.mp declares
  obtain ⟨others, rfl⟩ := behind
  rw [List.getLast?_append_of_ne_nil _ (ne_nil_of_starts starts)] at ending
  have shorter := length_outside_lt (List.suffix_append others rest)
    (beginsDeclaration_iff.mpr ⟨starts, List.mem_of_getLast? ending⟩)
  rw [same] at shorter
  exact Nat.lt_irrefl _ shorter

-----------------------------------------------------------------------------------------
-- A text and what is left of another one
-----------------------------------------------------------------------------------------

/-- Texts that are no longer than others make up the same together just if they are the same. -/
theorem append_eq_append_iff_of_length_le {front' back' : List Char}
    (short : front.length ≤ front'.length) (short' : back.length ≤ back'.length)
    : front ++ back = front' ++ back' ↔ front = front' ∧ back = back' := by
  refine ⟨fun same => List.append_inj same ?_, fun ⟨same, same'⟩ => same ▸ same' ▸ rfl⟩
  have total := congrArg List.length same
  rw [List.length_append, List.length_append] at total
  omega

variable {target : List Char}

/-- A tag is kept in front of what is kept of a text just if it holds no beginning. -/
theorem outside_tag_append_iff (ending : front.getLast? = some '>')
    (short : (outside false back).length ≤ target.length)
    : outside false (front ++ back) = front ++ target
      ↔ ¬Declares front ∧ outside false back = target := by
  rw [outside_append (closed_of_last ending back) (by simp),
    append_eq_append_iff_of_length_le (length_outside_le false front) short,
    outside_eq_self_iff ending]

/-- What is left of a piece is left of it in front of another tag just if no declaration in the piece
is open at its end.
-/
theorem outside_piece_append_iff (head : back.head? = some '<') (ends : '>' ∈ back)
    (short : (outside false back).length ≤ target.length)
    : outside false (front ++ back) = outside false front ++ target
      ↔ Settled front ∧ outside false back = target := by
  rw [← closed_iff_settled head ends]
  constructor
  · intro same
    have closed : Closed front back := by
      intro rest behind some begins
      refine Decidable.byContradiction fun unclosed => ?_
      have lost := length_outside_append_lt false behind some begins unclosed (by simp)
      rw [same, List.length_append] at lost
      omega
    rw [outside_append closed (by simp)] at same
    exact ⟨closed, List.append_cancel_left same⟩
  · rintro ⟨closed, same⟩
    rw [outside_append closed (by simp), same]

/-- A text is kept in front of a tag just if it holds no beginning. -/
theorem outside_text_append_iff (head : back.head? = some '<') (ends : '>' ∈ back)
    (short : (outside false back).length ≤ target.length)
    : outside false (front ++ back) = front ++ target
      ↔ ¬Declares front ∧ outside false back = target := by
  constructor
  · intro same
    suffices plain : ¬Declares front by
      have closed := (closed_iff_settled head ends).mpr (settled_of_not_declares plain)
      rw [outside_append closed (by simp), outside_of_not_declares plain] at same
      exact ⟨plain, List.append_cancel_left same⟩
    intro declares
    obtain ⟨rest, starts, behind⟩ := List.infix_iff_prefix_suffix.mp declares
    have shorter := length_outside_le false front
    -- the declaration is lost within the text, or together with the front of the tag
    cases begins : beginsDeclaration rest with
    | true =>
        have lost := length_outside_lt behind begins
        have joined := length_outside_append_le false front back
        rw [same, List.length_append] at joined
        omega
    | false =>
        have goes : beginsDeclaration (rest ++ back) = true := beginsDeclaration_iff.mpr
          ⟨starts.trans (List.prefix_append rest back), List.mem_append_right rest ends⟩
        have lost := length_outside_append_lt false behind (ne_nil_of_starts starts) goes
          (by simp [begins]) (by simp)
        rw [same, List.length_append] at lost
        omega
  · rintro ⟨plain, same⟩
    have closed := (closed_iff_settled head ends).mpr (settled_of_not_declares plain)
    rw [outside_append closed (by simp), outside_of_not_declares plain, same]

end HtmlQuery.Markup
