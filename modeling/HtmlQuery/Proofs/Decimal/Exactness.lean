import HtmlQuery.Decimal.Magnitude

/-! Integers that numbers of 53 significant binary digits hold: reading one rounds nothing away. -/

namespace HtmlQuery.Decimal

/-- Integers of at most 53 significant binary digits that are less than `2 ^ 1024`. -/
def Representable (n : Nat) : Prop :=
  n < twoToThe 1024
  ∧ ∃ significand exponent, n = significand * twoToThe exponent ∧ significand < twoToThe 53

theorem twoToThe_pos (exponent : Nat) : 0 < twoToThe exponent :=
  Nat.two_pow_pos exponent

theorem twoToThe_add (first second : Nat)
    : twoToThe (first + second) = twoToThe first * twoToThe second :=
  Nat.pow_add 2 first second

theorem twoToThe_succ (exponent : Nat) : twoToThe (exponent + 1) = twoToThe exponent * 2 :=
  rfl

theorem twoToThe_le {first second : Nat} (le : first ≤ second)
    : twoToThe first ≤ twoToThe second :=
  Nat.pow_le_pow_right (by decide) le

/-- Numbers hold all integers up to `2 ^ 53`. -/
theorem representable_of_le {n : Nat} (short : n ≤ twoToThe 53) : Representable n := by
  have small : n < twoToThe 1024 :=
    calc n
      _ ≤ twoToThe 53 := short
      _ < twoToThe 54 := by decide
      _ ≤ twoToThe 1024 := twoToThe_le (by decide)
  rcases Nat.eq_or_lt_of_le short with rfl | below
  · exact ⟨small, twoToThe 52, 1, by decide, by decide⟩
  · exact ⟨small, n, 0, (Nat.mul_one n).symm, below⟩

theorem floorLog_one {n : Nat} (positive : n ≠ 0) : floorLog n 1 = n.log2 := by
  have reached : twoToThe n.log2 ≤ n := Nat.log2_self_le positive
  have noLog : Nat.log2 1 = 0 := by decide
  simp [floorLog, noLog, reached]

theorem lastPlace_one {n : Nat} (positive : n ≠ 0) : lastPlace n 1 = n.log2 - 52 := by
  rw [lastPlace, floorLog_one positive]
  omega

theorem roundHalfEven_mul {denominator : Nat} (positive : 0 < denominator) (quotient : Nat)
    : roundHalfEven (quotient * denominator) denominator = quotient := by
  rw [roundHalfEven, Nat.mul_mod_left, Nat.mul_div_cancel quotient positive]
  simp [positive]

/-- The digits below the last place that a representable integer keeps are all zero. -/
theorem Representable.dvd {n : Nat} (exact : Representable n) (positive : n ≠ 0)
    : twoToThe (n.log2 - 52) ∣ n := by
  obtain ⟨-, significand, exponent, shape, short⟩ := exact
  have bound : n < twoToThe (53 + exponent) := by
    rw [shape, twoToThe_add]
    exact Nat.mul_lt_mul_of_pos_right short (twoToThe_pos exponent)
  have digits : n.log2 < 53 + exponent := (Nat.log2_lt positive).mpr bound
  have zeros : twoToThe (n.log2 - 52) ∣ twoToThe exponent := Nat.pow_dvd_pow 2 (by omega)
  rw [shape] at zeros ⊢
  exact Nat.dvd_mul_left_of_dvd zeros significand

namespace Magnitude

/-- Halving undoes doubling, by induction on the number of halvings. -/
theorem reduced_mul (n halvings : Nat)
    : reduced (n * twoToThe halvings) halvings = finite n 0 := by
  induction halvings with
  | zero => simp [reduced, twoToThe]
  | succ halvings ih =>
      rw [reduced, twoToThe_succ, ← Nat.mul_assoc, Nat.mul_mod_left, if_pos rfl,
        Nat.mul_div_cancel _ (by decide), ih]

theorem scaled_of_nonneg {significand exponent : Nat}
    (held : significand * twoToThe exponent < twoToThe 1024)
    : scaled significand exponent = finite (significand * twoToThe exponent) 0 := by
  have bound : ¬ twoToThe 1024 ≤ significand * twoToThe exponent := Nat.not_le.mpr held
  simp only [scaled, Int.natCast_nonneg, if_true, Int.toNat_natCast, bound, if_false]

theorem scaled_of_neg (n : Nat) {halvings : Nat} (positive : 0 < halvings)
    : scaled (n * twoToThe halvings) (-halvings) = finite n 0 := by
  have negative : ¬ (0 : Int) ≤ -halvings := by omega
  rw [scaled, if_neg negative, Int.neg_neg, Int.toNat_natCast, reduced_mul]

/-- A representable integer is the number nearest to itself: either there is a place for each of its
digits, or the digits that have none are zero.
-/
theorem nearest_one {n : Nat} (exact : Representable n) : nearest n 1 = finite n 0 := by
  unfold nearest
  split
  · rename_i zero
    rw [zero]
  · rename_i positive
    simp only [lastPlace_one positive]
    by_cases long : 52 ≤ n.log2
    · obtain ⟨exponent, place⟩ : ∃ exponent : Nat, n.log2 = 52 + exponent :=
        ⟨n.log2 - 52, by omega⟩
      have zeros := exact.dvd positive
      rw [place, Nat.add_sub_cancel_left] at zeros
      obtain ⟨significand, shape⟩ := zeros
      rw [Nat.mul_comm] at shape
      have last : ((n.log2 : Int) - 52) = exponent := by omega
      have rounded : roundHalfEven n (1 * twoToThe exponent) = significand := by
        rw [Nat.one_mul, shape]
        exact roundHalfEven_mul (twoToThe_pos exponent) significand
      rw [last, if_pos (Int.natCast_nonneg exponent), Int.toNat_natCast, rounded,
        scaled_of_nonneg (shape ▸ exact.1), ← shape]
    · obtain ⟨halvings, some, place⟩ : ∃ halvings : Nat, 0 < halvings ∧ n.log2 + halvings = 52 :=
        ⟨52 - n.log2, by omega, by omega⟩
      have last : ((n.log2 : Int) - 52) = -halvings := by omega
      have negative : ¬ (0 : Int) ≤ -halvings := by omega
      have rounded : roundHalfEven (n * twoToThe halvings) 1 = n * twoToThe halvings := by
        simpa using roundHalfEven_mul Nat.one_pos (n * twoToThe halvings)
      rw [last, if_neg negative, Int.neg_neg, Int.toNat_natCast, rounded, scaled_of_neg n some]

end Magnitude

end HtmlQuery.Decimal
