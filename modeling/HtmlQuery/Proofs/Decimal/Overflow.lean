import HtmlQuery.Proofs.Decimal.Exactness

/-! Which quotients are too large to be held: those from halfway between the greatest number and the
power of two behind it.
-/

namespace HtmlQuery.Decimal

/-- The least value that is rounded to infinity: the greatest number is `2 ^ 1024 - 2 ^ 971`. -/
def overflow : Nat :=
  (twoToThe 54 - 1) * twoToThe 970

-----------------------------------------------------------------------------------------
-- Logarithms
-----------------------------------------------------------------------------------------

theorem lt_twoToThe_log2 {n : Nat} (positive : n ≠ 0) : n < twoToThe (n.log2 + 1) :=
  (Nat.log2_lt positive).mp (Nat.lt_succ_self _)

theorem twoToThe_log2_le {n : Nat} (positive : n ≠ 0) : twoToThe n.log2 ≤ n :=
  Nat.log2_self_le positive

/-- A quotient reaches a power of two just if its logarithm reaches the exponent. -/
theorem le_floorLog {numerator denominator : Nat} (positive : numerator ≠ 0)
    (divides : denominator ≠ 0) (exponent : Nat)
    : (exponent : Int) ≤ floorLog numerator denominator
      ↔ denominator * twoToThe exponent ≤ numerator := by
  have numeratorUpper := lt_twoToThe_log2 positive
  have numeratorLower := twoToThe_log2_le positive
  have denominatorUpper := lt_twoToThe_log2 divides
  have denominatorLower := twoToThe_log2_le divides
  rcases Nat.lt_trichotomy (exponent + denominator.log2) numerator.log2 with below | same | above
  · have reaches : denominator * twoToThe exponent ≤ numerator := by
      calc denominator * twoToThe exponent
          ≤ twoToThe (denominator.log2 + 1) * twoToThe exponent :=
            Nat.mul_le_mul_right _ (Nat.le_of_lt denominatorUpper)
        _ = twoToThe (denominator.log2 + 1 + exponent) := (twoToThe_add _ _).symm
        _ ≤ twoToThe numerator.log2 := twoToThe_le (by omega)
        _ ≤ numerator := numeratorLower
    refine iff_of_true ?_ reaches
    simp only [floorLog]
    split <;> split <;> omega
  · have guess : (numerator.log2 : Int) - denominator.log2 = exponent := by omega
    simp only [floorLog, guess, Int.natCast_nonneg, if_true, Int.toNat_natCast]
    by_cases reached : denominator * twoToThe exponent ≤ numerator
    · simp [reached]
    · simp only [reached, decide_false, Bool.false_eq_true, if_false, iff_false]
      omega
  · have misses : numerator < denominator * twoToThe exponent := by
      calc numerator
          < twoToThe (numerator.log2 + 1) := numeratorUpper
        _ ≤ twoToThe (denominator.log2 + exponent) := twoToThe_le (by omega)
        _ = twoToThe denominator.log2 * twoToThe exponent := twoToThe_add _ _
        _ ≤ denominator * twoToThe exponent := Nat.mul_le_mul_right _ denominatorLower
    refine iff_of_false ?_ (Nat.not_le.mpr misses)
    simp only [floorLog]
    split <;> split <;> omega

-----------------------------------------------------------------------------------------
-- Rounding
-----------------------------------------------------------------------------------------

/-- An even integer is reached by rounding just from halfway below it on. -/
theorem le_roundHalfEven {numerator denominator bound : Nat} (positive : 0 < denominator)
    (even : bound % 2 = 0)
    : bound ≤ roundHalfEven numerator denominator
      ↔ 2 * (bound * denominator) ≤ 2 * numerator + denominator := by
  have whole := Nat.div_add_mod numerator denominator
  have rest := Nat.mod_lt numerator positive
  rw [Nat.mul_comm] at whole
  simp only [roundHalfEven]
  generalize numerator / denominator = quotient at whole ⊢
  generalize numerator % denominator = remainder at whole rest ⊢
  rcases Nat.lt_trichotomy bound (quotient + 1) with below | rfl | above
  · have product := Nat.mul_le_mul_right denominator (Nat.le_of_lt_succ below)
    refine iff_of_true ?_ (by omega)
    split <;> (try split) <;> (try split) <;> omega
  · rw [Nat.add_mul]
    split
    · omega
    · split
      · omega
      · split <;> omega
  · have product := Nat.mul_le_mul_right denominator above
    rw [Nat.succ_mul, Nat.add_mul] at product
    refine iff_of_false ?_ (by omega)
    split <;> (try split) <;> (try split) <;> omega

/-- Rounding reaches no further than the next integer. -/
theorem roundHalfEven_le {numerator denominator bound : Nat} (positive : 0 < denominator)
    (below : numerator < bound * denominator)
    : roundHalfEven numerator denominator ≤ bound := by
  have quotient : numerator / denominator < bound := (Nat.div_lt_iff_lt_mul positive).mpr below
  simp only [roundHalfEven]
  split <;> (try split) <;> (try split) <;> omega

namespace Magnitude

theorem reduced_ne_infinite (numerator halvings : Nat) : reduced numerator halvings ≠ infinite := by
  induction halvings generalizing numerator with
  | zero => simp [reduced]
  | succ halvings ih =>
      rw [reduced]
      split
      · exact ih _
      · simp

theorem scaled_eq_infinite {significand : Nat} {exponent : Int}
    : scaled significand exponent = infinite
      ↔ 0 ≤ exponent ∧ twoToThe 1024 ≤ significand * twoToThe exponent.toNat := by
  simp only [scaled]
  split
  · split <;> simp_all
  · rename_i negative
    simp [negative, reduced_ne_infinite]

/-- What a place of the last digit says about whether that digit's multiples reach infinity, given the
order of magnitude that the place belongs to.
-/
theorem overflow_iff {numerator denominator place : Nat} (positive : 0 < denominator)
    (lower : denominator * twoToThe (52 + place) ≤ numerator)
    (upper : numerator < denominator * twoToThe (53 + place))
    : twoToThe 1024
        ≤ roundHalfEven numerator (denominator * twoToThe place) * twoToThe place
      ↔ overflow * denominator ≤ numerator := by
  have unit : 0 < denominator * twoToThe place := Nat.mul_pos positive (twoToThe_pos place)
  rw [twoToThe_add, Nat.mul_left_comm] at lower upper
  rcases Nat.lt_trichotomy place 971 with below | rfl | above
  · have rounded := roundHalfEven_le unit upper
    refine iff_of_false (Nat.not_le.mpr ?_) (Nat.not_le.mpr ?_)
    · calc roundHalfEven numerator (denominator * twoToThe place) * twoToThe place
          ≤ twoToThe 53 * twoToThe place := Nat.mul_le_mul_right _ rounded
        _ = twoToThe (53 + place) := (twoToThe_add _ _).symm
        _ ≤ twoToThe 1023 := twoToThe_le (by omega)
        _ < twoToThe 1024 := by decide +kernel
    · calc numerator
          < twoToThe 53 * (denominator * twoToThe place) := upper
        _ = twoToThe (53 + place) * denominator := by
            rw [Nat.mul_left_comm, ← twoToThe_add, Nat.mul_comm]
        _ ≤ twoToThe 1023 * denominator := Nat.mul_le_mul_right _ (twoToThe_le (by omega))
        _ ≤ overflow * denominator := Nat.mul_le_mul_right _ (by decide +kernel)
  · have power : twoToThe 1024 = twoToThe 53 * twoToThe 971 := twoToThe_add 53 971
    have double : denominator * twoToThe 971 = 2 * (twoToThe 970 * denominator) := by
      rw [twoToThe_succ, ← Nat.mul_assoc, Nat.mul_comm denominator, Nat.mul_comm _ 2]
    have even : twoToThe 53 % 2 = 0 := by decide
    rw [power, Nat.mul_le_mul_right_iff (twoToThe_pos 971), le_roundHalfEven unit even, double,
      overflow, Nat.mul_assoc]
    have digits : twoToThe 53 = 9007199254740992 := by decide
    have digits' : twoToThe 54 - 1 = 18014398509481983 := by decide
    rw [digits, digits']
    generalize twoToThe 970 * denominator = product
    omega
  · have rounded : twoToThe 52 ≤ roundHalfEven numerator (denominator * twoToThe place) := by
      apply (le_roundHalfEven unit (by decide)).mpr
      omega
    refine iff_of_true ?_ ?_
    · calc twoToThe 1024
          ≤ twoToThe (52 + place) := twoToThe_le (by omega)
        _ = twoToThe 52 * twoToThe place := twoToThe_add _ _
        _ ≤ _ := Nat.mul_le_mul_right _ rounded
    · calc overflow * denominator
          ≤ twoToThe 1024 * denominator := Nat.mul_le_mul_right _ (by decide +kernel)
        _ ≤ twoToThe (52 + place) * denominator := Nat.mul_le_mul_right _ (twoToThe_le (by omega))
        _ = twoToThe 52 * (denominator * twoToThe place) := by
            rw [Nat.mul_left_comm, ← twoToThe_add, Nat.mul_comm]
        _ ≤ numerator := lower

/-- A quotient has no nearest number but infinity just if it is at least the overflow. -/
theorem nearest_eq_infinite {numerator denominator : Nat} (positive : 0 < denominator)
    : nearest numerator denominator = infinite ↔ overflow * denominator ≤ numerator := by
  have some : 0 < overflow * denominator := Nat.mul_pos (by decide +kernel) positive
  unfold nearest
  split
  · rename_i zero
    simp only [reduceCtorEq, false_iff]
    omega
  · rename_i nonzero
    have reaches := le_floorLog nonzero (Nat.ne_of_gt positive)
    simp only [scaled_eq_infinite]
    by_cases long : (52 : Int) ≤ floorLog numerator denominator
    · obtain ⟨place, order⟩ : ∃ place : Nat, floorLog numerator denominator = 52 + place :=
        ⟨(floorLog numerator denominator - 52).toNat, by omega⟩
      have last : lastPlace numerator denominator = place := by
        rw [lastPlace]
        omega
      have lower := (reaches (52 + place)).mp (by omega)
      have upper := mt (reaches (53 + place)).mpr (by omega)
      rw [last, if_pos (Int.natCast_nonneg place), Int.toNat_natCast,
        ← overflow_iff positive lower (Nat.not_le.mp upper)]
      exact and_iff_right (Int.natCast_nonneg place)
    · have last : ¬0 ≤ lastPlace numerator denominator := by
        rw [lastPlace]
        omega
      refine iff_of_false (fun infinite => last infinite.1) (Nat.not_le.mpr ?_)
      calc numerator
          < denominator * twoToThe 52 := Nat.not_le.mp (mt (reaches 52).mpr long)
        _ = twoToThe 52 * denominator := Nat.mul_comm _ _
        _ ≤ overflow * denominator := Nat.mul_le_mul_right _ (by decide +kernel)

end Magnitude

end HtmlQuery.Decimal
