import Mathlib.Algebra.Order.Ring.Nat
import Mathlib.Tactic.GCongr
import Mathlib.Tactic.Ring
import Formulary.Proofs.Number.Comparison

namespace Formulary

/-! # Rounding

The float of a quotient depends on the value of the quotient alone.  A magnitude
is rounded to itself, and so the float of a decimal is found however large or
small the decimal is, and however many zeros stand at its end.
-/

namespace Binary64

variable {rank numerator denominator factor : Nat}

theorem scale_le (rank : Nat) : ranksPerScale * scale rank ≤ rank := by
  simp only [scale, ranksPerScale_eq]
  omega

/-- The spacing of a magnitude is told by its leading bit. -/
theorem log2_units (rank : Nat) : (units rank).log2 - 52 = scale rank := by
  have below : significand rank < 2 ^ 53 := by
    simp only [significand, scale, ranksPerScale_eq]
    omega
  by_cases first : scale rank = 0
  · have small : units rank < 2 ^ 53 := by simpa [units, first] using below
    by_cases zero : units rank = 0
    · rw [zero, first]
      rfl
    · have exponent := (Nat.log2_lt zero).mpr small
      omega
  · have above : 2 ^ 52 ≤ significand rank := by
      simp only [significand, scale, ranksPerScale_eq] at first ⊢
      omega
    have nonzero : units rank ≠ 0 :=
      Nat.mul_ne_zero (by omega) (Nat.pow_pos (by decide)).ne'
    have exponent : (units rank).log2 = 52 + scale rank := by
      rw [Nat.log2_eq_iff nonzero, units, Nat.pow_eq]
      constructor
      · rw [Nat.pow_add]
        exact Nat.mul_le_mul_right _ above
      · rw [Nat.add_right_comm, Nat.pow_add]
        exact Nat.mul_lt_mul_of_pos_right below (Nat.pow_pos (by decide))
    omega

theorem roundQuotient_mul_self (quotient : Nat) (positive : 0 < denominator) :
    roundQuotient (quotient * denominator) denominator = quotient := by
  simp [roundQuotient, positive]

theorem nearestRank_units (rank : Nat) (positive : 0 < denominator) :
    nearestRank (units rank * denominator) denominator = rank := by
  have steps : units rank * denominator =
      significand rank * (denominator * Nat.pow 2 (scale rank)) := by
    rw [units]
    ring
  have spaced : 0 < denominator * Nat.pow 2 (scale rank) :=
    Nat.mul_pos positive (Nat.pow_pos (by decide))
  have enough := scale_le rank
  simp only [nearestRank]
  rw [Nat.mul_div_cancel _ positive, log2_units, steps, roundQuotient_mul_self _ spaced,
    significand]
  omega

theorem roundQuotient_scaled (numerator denominator : Nat) (positive : 0 < factor) :
    roundQuotient (numerator * factor) (denominator * factor) =
      roundQuotient numerator denominator := by
  have twice : 2 * (numerator * factor % (denominator * factor)) =
      2 * (numerator % denominator) * factor := by
    rw [Nat.mul_mod_mul_right, Nat.mul_assoc]
  simp only [roundQuotient, Nat.mul_div_mul_right _ _ positive, twice,
    Nat.mul_lt_mul_right positive]

theorem nearestRank_scaled (numerator denominator : Nat) (positive : 0 < factor) :
    nearestRank (numerator * factor) (denominator * factor) =
      nearestRank numerator denominator := by
  have spaced (spacing : Nat) : denominator * factor * Nat.pow 2 spacing =
      denominator * Nat.pow 2 spacing * factor := Nat.mul_right_comm ..
  simp only [nearestRank, Nat.mul_div_mul_right _ _ positive, spaced,
    roundQuotient_scaled _ _ positive]

/-- The float of a quotient does not depend on how the quotient is written. -/
theorem ofUnits_congr {negative : Bool} {other otherDenominator : Nat}
    (positive : 0 < denominator) (otherPositive : 0 < otherDenominator)
    (same : numerator * otherDenominator = other * denominator) :
    ofUnits negative numerator denominator = ofUnits negative other otherDenominator := by
  have ranks : nearestRank numerator denominator = nearestRank other otherDenominator := by
    rw [← nearestRank_scaled numerator denominator otherPositive, same,
      Nat.mul_comm denominator, nearestRank_scaled other otherDenominator positive]
  simp only [ofUnits, ranks]

theorem nearestRank_of_small (small : 2 * numerator < denominator) :
    nearestRank numerator denominator = 0 := by
  have none : numerator / denominator = 0 := Nat.div_eq_of_lt (by omega)
  have whole : numerator % denominator = numerator := Nat.mod_eq_of_lt (by omega)
  simp [nearestRank, roundQuotient, none, whole, small]

theorem nearestRank_of_large (large : 2 ^ 2103 ≤ numerator / denominator) :
    infinityRank ≤ nearestRank numerator denominator := by
  have positive : 0 < numerator / denominator := Nat.lt_of_lt_of_le (Nat.two_pow_pos _) large
  have exponent : 2103 ≤ (numerator / denominator).log2 := (Nat.le_log2 positive.ne').mpr large
  calc infinityRank ≤ ranksPerScale * 2051 := by decide
    _ ≤ ranksPerScale * ((numerator / denominator).log2 - 52) := by gcongr; omega
    _ ≤ nearestRank numerator denominator := Nat.le_add_right _ _

theorem ofUnits_of_large {negative : Bool} (large : 2 ^ 2103 ≤ numerator / denominator) :
    ofUnits negative numerator denominator = infinity negative := by
  have past := nearestRank_of_large large
  simp only [ofUnits, dif_neg (Nat.not_lt.mpr past)]

theorem ofUnits_of_small {negative : Bool} (small : 2 * numerator < denominator) :
    ofUnits negative numerator denominator = zero negative := by
  simp only [ofUnits, nearestRank_of_small small, zero]
  rfl

theorem ofUnits_units {negative : Bool} (rank : Fin infinityRank) (positive : 0 < denominator) :
    ofUnits negative (units rank * denominator) denominator = finite negative rank := by
  simp only [ofUnits, nearestRank_units _ positive, rank.isLt, dite_true]

theorem ofDecimal_zero (negative : Bool) (exponent : Int) :
    ofDecimal negative 0 exponent = zero negative := if_pos rfl

/-- A decimal is rounded once, however large or small it is. -/
theorem ofDecimal_eq {negative : Bool} {coefficient : Nat} (exponent : Int)
    (nonzero : coefficient ≠ 0) :
    ofDecimal negative coefficient exponent =
      ofUnits negative (one * (coefficient * 10 ^ exponent.toNat)) (10 ^ (-exponent).toNat) := by
  unfold ofDecimal
  rw [if_neg nonzero]
  split
  · rename_i huge
    have whole : (-exponent).toNat = 0 := by omega
    have places : 310 ≤ exponent.toNat := by omega
    have steps : 10 ^ 310 ≤ coefficient * 10 ^ exponent.toNat := by
      calc 10 ^ 310 ≤ 10 ^ exponent.toNat := Nat.pow_le_pow_right (by decide) places
        _ ≤ coefficient * 10 ^ exponent.toNat :=
            Nat.le_mul_of_pos_left _ (Nat.pos_of_ne_zero nonzero)
    rw [whole, ofUnits_of_large]
    calc 2 ^ 2103 ≤ one * 10 ^ 310 := by decide +kernel
      _ ≤ one * (coefficient * 10 ^ exponent.toNat) := by gcongr
      _ = one * (coefficient * 10 ^ exponent.toNat) / 10 ^ 0 := by rw [pow_zero, Nat.div_one]
  · split
    · rename_i tiny
      have whole : exponent.toNat = 0 := by omega
      have below : coefficient < 2 ^ (coefficient.log2 + 1) := Nat.lt_log2_self
      have powers : 2 ^ coefficient.log2 ≤ 10 ^ coefficient.log2 :=
        Nat.pow_le_pow_left (by decide) _
      have unit : 4 * one ≤ 10 ^ 332 := by decide +kernel
      rw [whole, pow_zero, Nat.mul_one, ofUnits_of_small]
      calc 2 * (one * coefficient)
          = 2 * one * coefficient := by ring
        _ < 2 * one * 2 ^ (coefficient.log2 + 1) :=
            Nat.mul_lt_mul_of_pos_left below (Nat.mul_pos (by decide) one_pos)
        _ = 4 * one * 2 ^ coefficient.log2 := by ring
        _ ≤ 10 ^ 332 * 10 ^ coefficient.log2 := Nat.mul_le_mul unit powers
        _ = 10 ^ (332 + coefficient.log2) := (Nat.pow_add ..).symm
        _ ≤ 10 ^ (-exponent).toNat := Nat.pow_le_pow_right (by decide) (by omega)
    · split
      · rename_i upward
        have power : exponent.natAbs = exponent.toNat := by omega
        have whole : (-exponent).toNat = 0 := by omega
        rw [power, whole]
        rfl
      · have power : exponent.natAbs = (-exponent).toNat := by omega
        have whole : exponent.toNat = 0 := by omega
        rw [power, whole, pow_zero, Nat.mul_one]
        rfl

/-- Zeros at the end of a coefficient can be moved to the exponent. -/
theorem ofDecimal_shift (negative : Bool) (coefficient places : Nat) (exponent : Int) :
    ofDecimal negative (coefficient * 10 ^ places) (exponent - places) =
      ofDecimal negative coefficient exponent := by
  by_cases zero : coefficient = 0
  · simp only [zero, Nat.zero_mul, ofDecimal_zero]
  · have tens (power : Nat) : 0 < 10 ^ power := Nat.pow_pos (by decide)
    have nonzero : coefficient * 10 ^ places ≠ 0 := Nat.mul_ne_zero zero (tens places).ne'
    have powers : places + (exponent - places).toNat + (-exponent).toNat =
        exponent.toNat + (-(exponent - places)).toNat := by omega
    rw [ofDecimal_eq _ nonzero, ofDecimal_eq _ zero]
    refine ofUnits_congr (tens _) (tens _) ?_
    calc one * (coefficient * 10 ^ places * 10 ^ (exponent - places).toNat) *
          10 ^ (-exponent).toNat
        = one * coefficient * 10 ^ (places + (exponent - places).toNat + (-exponent).toNat) := by
          ring
      _ = one * coefficient * 10 ^ (exponent.toNat + (-(exponent - places)).toNat) := by rw [powers]
      _ = one * (coefficient * 10 ^ exponent.toNat) * 10 ^ (-(exponent - places)).toNat := by ring

theorem ofDecimal_sign {coefficient : Nat} {exponent : Int} {rank : Fin infinityRank}
    (negative : Bool) (nonzero : coefficient ≠ 0)
    (known : ofDecimal false coefficient exponent = finite false rank) :
    ofDecimal negative coefficient exponent = finite negative rank := by
  rw [ofDecimal_eq _ nonzero] at known ⊢
  simp only [ofUnits] at known ⊢
  split at known
  · rename_i inRange
    cases known
    rw [dif_pos inRange]
  · cases known

end Binary64

end Formulary
