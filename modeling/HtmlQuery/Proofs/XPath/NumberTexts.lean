import Mathlib.Data.List.Basic
import HtmlQuery.Decimal.Layout
import HtmlQuery.Proofs.Decimal.Overflow
import HtmlQuery.Proofs.XPath.Literals
import HtmlQuery.Proofs.XPath.TokenRow

/-! The texts that numbers are given back as. A literal that such a text begins and ends with is the
whole text, so no other literal occurs there.
-/

namespace HtmlQuery

-----------------------------------------------------------------------------------------
-- Decimals with at most one point
-----------------------------------------------------------------------------------------

namespace Decimal

/-- Whether a text consists of characters that occur in decimals, apart from their point. -/
def Written (text : List Char) : Prop :=
  ∀ c ∈ text, c.isDigit = true ∨ c ∈ ['e', '+', '-']

theorem Written.append {text more : List Char} (written : Written text) (written' : Written more)
    : Written (text ++ more) :=
  List.forall_mem_append.mpr ⟨written, written'⟩

theorem Written.not_mem_point {text : List Char} (written : Written text) : '.' ∉ text :=
  fun member => absurd (written '.' member) (by decide)

theorem Written.isBlank_eq {text : List Char} (written : Written text)
    : ∀ c ∈ text, Text.isBlank c = false := by
  intro c member
  rcases written c member with digit | sign
  · have ascii := Char.isDigit_iff_toNat.mp digit
    simp only [Text.isBlank]
    grind
  · simp only [List.mem_cons, List.not_mem_nil, or_false] at sign
    rcases sign with rfl | rfl | rfl <;> rfl

theorem written_toString (n : Nat) : Written (toString n).toList := fun _ member =>
  .inl (XPath.isDigit_of_mem_toString member)

namespace Layout

theorem written_zeros (count : Nat) : Written (zeros count).toList := by
  intro c member
  rw [zeros, String.toList_ofList] at member
  rw [List.eq_of_mem_replicate member]
  exact .inl (by decide)

theorem written_exponent (layout : Layout) (power : Int)
    : Written (layout.exponent power).toList := by
  have sign : Written (if power < 0 then "e-" else "e+").toList := by
    split <;> simp [Written]
  rw [exponent, String.toList_append, String.toList_append]
  exact (sign.append (written_zeros _)).append (written_toString _)

/-- A decimal is written with at most one point. -/
theorem write_eq (layout : Layout) (decimal : Decimal)
    : ∃ front back,
        Written (front ++ back)
        ∧ ((layout.write decimal).toList = front ++ '.' :: back
          ∨ (layout.write decimal).toList = front ++ back) := by
  simp only [write]
  generalize ((toString decimal.digits).length : Int) = count
  generalize count + decimal.exponent = point
  have zero : Written ['0'] := by simp [Written]
  have digits := written_toString decimal.digits
  have some (count : Nat) : Written ((toString decimal.digits).toList.take count) :=
    fun c member => digits c (List.mem_of_mem_take member)
  have others (count : Nat) : Written ((toString decimal.digits).toList.drop count) :=
    fun c member => digits c (List.mem_of_mem_drop member)
  split
  · split
    · exact ⟨['0'], ['0'], zero.append zero, .inl rfl⟩
    · split
      · refine ⟨['0'], (zeros (-point).toNat).toList ++ (toString decimal.digits).toList,
          zero.append ((written_zeros _).append digits), .inl ?_⟩
        simp
      · split
        · refine ⟨(toString decimal.digits).toList ++ (zeros (point - count).toNat).toList, ['0'],
            (digits.append (written_zeros _)).append zero, .inl ?_⟩
          simp
        · refine ⟨_, _, (some point.toNat).append (others point.toNat), .inl ?_⟩
          simp
  · refine ⟨_, _, (some 1).append ((others 1).append (written_exponent layout (point - 1))), ?_⟩
    split
    · rename_i empty
      have none : (toString decimal.digits).toList.drop 1 = [] := by simpa using empty
      rw [none]
      exact .inr (by simp)
    · exact .inl (by simp)

end Layout

-----------------------------------------------------------------------------------------
-- Integers that are rounded
-----------------------------------------------------------------------------------------

theorem roundHalfEven_le_succ (numerator denominator : Nat)
    : roundHalfEven numerator denominator ≤ numerator / denominator + 1 := by
  simp only [roundHalfEven]
  split <;> (try split) <;> (try split) <;> omega

/-- An integer is rounded to an integer that is at most twice as large. -/
theorem Magnitude.finite_of_nearest_one {n value halvings : Nat}
    (rounded : nearest n 1 = finite value halvings)
    : halvings = 0 ∧ value ≤ 2 * n := by
  by_cases short : n ≤ twoToThe 53
  · rw [nearest_one (representable_of_le short)] at rounded
    cases rounded
    exact ⟨rfl, by omega⟩
  · have positive : n ≠ 0 := by
      rintro rfl
      exact short (Nat.zero_le _)
    have long : 53 ≤ n.log2 := (Nat.le_log2 positive).mpr (Nat.le_of_lt (Nat.not_le.mp short))
    obtain ⟨exponent, log⟩ : ∃ exponent : Nat, n.log2 = 52 + exponent := ⟨n.log2 - 52, by omega⟩
    have last : lastPlace n 1 = exponent := by
      rw [lastPlace_one positive]
      omega
    have unit : twoToThe exponent ≤ n :=
      calc twoToThe exponent
          ≤ twoToThe n.log2 := twoToThe_le (by omega)
        _ ≤ n := twoToThe_log2_le positive
    have bound : roundHalfEven n (twoToThe exponent) * twoToThe exponent ≤ 2 * n :=
      calc roundHalfEven n (twoToThe exponent) * twoToThe exponent
          ≤ (n / twoToThe exponent + 1) * twoToThe exponent :=
            Nat.mul_le_mul_right _ (roundHalfEven_le_succ _ _)
        _ = n / twoToThe exponent * twoToThe exponent + twoToThe exponent := Nat.succ_mul _ _
        _ ≤ 2 * n := by
            have quotient := Nat.div_mul_le_self n (twoToThe exponent)
            omega
    rw [nearest, if_neg positive] at rounded
    simp only [last, Int.natCast_nonneg, if_true, Int.toNat_natCast, Nat.one_mul, scaled]
      at rounded
    split at rounded
    · cases rounded
    · cases rounded
      exact ⟨rfl, bound⟩

end Decimal

-----------------------------------------------------------------------------------------
-- The texts of numbers
-----------------------------------------------------------------------------------------

namespace XPath

open HtmlQuery.Text

/-- A text with a mark is all of another one that begins and ends with it and has the mark once. -/
theorem eq_of_begins_of_ends {part whole : List Char} {mark : Char} (begins : part <+: whole)
    (ends : part <:+ whole) (member : mark ∈ part) (once : whole.count mark ≤ 1)
    : part = whole := by
  obtain ⟨back, rfl⟩ := begins
  obtain ⟨front, same⟩ := ends
  obtain ⟨before, after, rfl⟩ := List.append_of_mem member
  simp only [List.count_append, List.count_cons_self] at once
  have first : mark ∉ before := List.count_eq_zero.mp (by omega)
  have last : mark ∉ after ++ back :=
    List.count_eq_zero.mp (by rw [List.count_append]; omega)
  rw [List.append_assoc, List.cons_append, ← List.append_assoc, eq_comm,
    List.append_cons_inj_of_notMem first last] at same
  obtain ⟨-, -, rest⟩ := same
  simpa using rest

namespace Number

/-- Numbers are written with at most one point and without white space. -/
theorem text_facts (number : Number)
    : number.text.toList.count '.' ≤ 1
      ∧ ∀ c ∈ number.text.toList, isBlank c = false := by
  cases number with
  | infinite =>
      have word : text .infinite = String.ofList ['i', 'n', 'f'] := rfl
      rw [word, String.toList_ofList]
      refine ⟨by decide, fun c member => ?_⟩
      simp only [List.mem_cons, List.not_mem_nil, or_false] at member
      rcases member with rfl | rfl | rfl <;> rfl
  | finite numerator halvings =>
      cases halvings with
      | zero =>
          have written := Decimal.written_toString numerator
          have none := List.count_eq_zero.mpr written.not_mem_point
          exact ⟨Nat.le_of_lt (Nat.lt_one_iff.mpr none), written.isBlank_eq⟩
      | succ halvings =>
          obtain ⟨front, back, written, shape⟩ :=
            Decimal.plainLayout.write_eq (Decimal.shortest numerator (halvings + 1))
          have none := List.count_eq_zero.mpr written.not_mem_point
          have visible := written.isBlank_eq
          simp only [List.count_append, List.forall_mem_append] at none visible
          simp only [text]
          rcases shape with shape | shape
          · have point : isBlank '.' = false := by decide
            simp only [shape, List.count_append, List.count_cons_self, List.forall_mem_append,
              List.forall_mem_cons]
            exact ⟨by omega, visible.1, point, visible.2⟩
          · simp only [shape, List.count_append, List.forall_mem_append]
            exact ⟨by omega, visible⟩

/-- Digits that an integer begins with are all of its digits, unless it is more than twice as large.
-/
theorem eq_of_begins_integer {part : List Char} {n : Nat} (nonempty : part ≠ [])
    (begins : part <+: (toString n).toList) (bound : n ≤ 2 * digitsValue part)
    : part = (toString n).toList := by
  obtain ⟨rest, shape⟩ := begins
  have plain : ∀ c ∈ part, c.isDigit = true := fun c member =>
    isDigit_of_mem_toString (shape ▸ List.mem_append_left rest member)
  rw [digitsValue, foldl_digits plain] at bound
  rw [Nat.toString_eq_ofList_toDigits, String.toList_ofList] at shape ⊢
  have value : n = 10 ^ rest.length * Nat.ofDigitChars 10 part 0 + Nat.ofDigitChars 10 rest 0 :=
    calc n
        = Nat.ofDigitChars 10 (Nat.toDigits 10 n) 0 := Nat.ofDigitChars_ten_toDigits.symm
      _ = Nat.ofDigitChars 10 rest (Nat.ofDigitChars 10 part 0) := by
          rw [← shape, Nat.ofDigitChars_append]
      _ = _ := Nat.ofDigitChars_eq_ofDigitChars_zero
  cases rest with
  | nil => simpa using shape
  | cons c rest =>
      have power : 10 ≤ 10 ^ (c :: rest).length := by
        rw [List.length_cons, Nat.pow_succ]
        have positive : 0 < 10 ^ rest.length := Nat.pow_pos (by decide)
        omega
      have product := Nat.mul_le_mul_right (Nat.ofDigitChars 10 part 0) power
      obtain rfl : n = 0 := by omega
      have length := congrArg List.length shape
      have some := List.length_pos_iff.mpr nonempty
      rw [Nat.toDigits_zero] at length
      simp only [List.length_append, List.length_cons, List.length_nil] at length
      omega

/-- A literal that the text of its number begins and ends with is that text. -/
theorem text_of_begins_of_ends {literal : String} (lexeme : Token.IsLexeme .number literal.toList)
    (begins : literal.toList <+: (read literal).text.toList)
    (ends : literal.toList <:+ (read literal).text.toList)
    : (read literal).text = literal := by
  by_cases point : '.' ∈ literal.toList
  · have whole := eq_of_begins_of_ends begins ends point (text_facts (read literal)).1
    exact (String.toList_inj.mp whole).symm
  · cases denotes : read literal with
    | infinite =>
        rw [denotes] at begins
        obtain ⟨rest, shape⟩ := begins
        generalize literal.toList = row at lexeme shape
        cases lexeme with
        | single starts | double starts =>
            obtain ⟨rfl, -⟩ := List.cons.inj shape
            exact absurd starts (by decide)
    | finite value halvings =>
        rw [read_integer point] at denotes
        obtain ⟨rfl, bound⟩ := Decimal.Magnitude.finite_of_nearest_one denotes
        rw [read_integer point, denotes] at begins
        have whole := eq_of_begins_integer (Token.ne_nil_of_isLexeme lexeme) begins bound
        exact (String.toList_inj.mp whole).symm

end Number

end XPath

end HtmlQuery
