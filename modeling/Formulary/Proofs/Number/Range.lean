import Formulary.Proofs.Number.Rounding

namespace Formulary

/-! # The range of floats

An integer has a float as long as it is nearer to the greatest float than to the
power of two behind it.  The float has the sign of the integer, and is zero for
zero only.
-/

namespace Binary64

variable {numerator denominator bound : Nat} {number : Int} {value : Binary64}

theorem le_roundQuotient (numerator denominator : Nat) :
    numerator / denominator ≤ roundQuotient numerator denominator := by
  simp only [roundQuotient]
  split
  · exact Nat.le_refl _
  · split
    · exact Nat.le_succ _
    · exact Nat.le_add_right _ _

theorem roundQuotient_le_succ (numerator denominator : Nat) :
    roundQuotient numerator denominator ≤ numerator / denominator + 1 := by
  simp only [roundQuotient]
  split
  · exact Nat.le_succ _
  · split
    · exact Nat.le_refl _
    · have parity := Nat.mod_lt (numerator / denominator) (by decide : 0 < 2)
      omega

/-- Half a step below an even number everything is rounded down, and half a step
itself is not. -/
theorem roundQuotient_lt_iff (positive : 0 < denominator) (even : bound % 2 = 0) :
    roundQuotient numerator denominator < bound ↔
      2 * numerator + denominator < 2 * (bound * denominator) := by
  have parts : denominator * (numerator / denominator) + numerator % denominator = numerator :=
    Nat.div_add_mod numerator denominator
  have rest : numerator % denominator < denominator := Nat.mod_lt numerator positive
  have below := le_roundQuotient numerator denominator
  have above := roundQuotient_le_succ numerator denominator
  rcases Nat.lt_trichotomy (numerator / denominator + 1) bound with less | same | more
  · refine iff_of_true (Nat.lt_of_le_of_lt above less) ?_
    have steps : (numerator / denominator + 2) * denominator ≤ bound * denominator :=
      Nat.mul_le_mul_right _ less
    have expanded : (numerator / denominator + 2) * denominator =
        denominator * (numerator / denominator) + 2 * denominator := by ring
    omega
  · -- the number below is odd, so that a tie goes up to the bound
    have steps : bound * denominator =
        denominator * (numerator / denominator) + denominator := by
      rw [← same]
      ring
    have odd : numerator / denominator % 2 = 1 := by omega
    have rounded : roundQuotient numerator denominator < bound ↔
        2 * (numerator % denominator) < denominator := by
      simp only [roundQuotient, odd, ← same]
      split
      · rename_i down
        exact iff_of_true (Nat.lt_succ_self _) down
      · rename_i up
        split <;> exact iff_of_false (Nat.lt_irrefl _) up
    rw [rounded]
    omega
  · refine iff_of_false (Nat.not_lt.mpr (Nat.le_trans (by omega) below)) ?_
    have steps : bound * denominator ≤ numerator / denominator * denominator :=
      Nat.mul_le_mul_right _ (Nat.le_of_lt_succ more)
    rw [Nat.mul_comm (numerator / denominator)] at steps
    omega

theorem nearestRank_whole (numerator : Nat) :
    nearestRank numerator 1 =
      2 ^ 52 * (numerator.log2 - 52) + roundQuotient numerator (2 ^ (numerator.log2 - 52)) := by
  simp only [nearestRank, Nat.div_one, Nat.one_mul]
  rfl

theorem nearestRank_ne_zero (nonzero : numerator ≠ 0) : nearestRank numerator 1 ≠ 0 := by
  have spaced : 2 ^ (numerator.log2 - 52) ≤ numerator :=
    Nat.le_trans (Nat.pow_le_pow_right (by decide) (Nat.sub_le _ _)) (Nat.log2_self_le nonzero)
  have one : 1 ≤ numerator / 2 ^ (numerator.log2 - 52) :=
    (Nat.one_le_div_iff (Nat.two_pow_pos _)).mpr spaced
  have steps := le_roundQuotient numerator (2 ^ (numerator.log2 - 52))
  rw [nearestRank_whole]
  omega

/-- Rounding stays finite up to half a step behind the greatest magnitude. -/
theorem nearestRank_lt_infinityRank_iff :
    nearestRank numerator 1 < infinityRank ↔ numerator < (2 ^ 54 - 1) * 2 ^ 2044 := by
  have infinity : infinityRank = 2 ^ 52 * 2045 + 2 ^ 53 := by decide
  rw [nearestRank_whole, infinity]
  by_cases zero : numerator = 0
  · subst zero
    exact iff_of_true (by decide) (by decide +kernel)
  rcases Nat.lt_trichotomy numerator.log2 2097 with less | same | more
  · have quotient : numerator / 2 ^ (numerator.log2 - 52) < 2 ^ 53 := by
      rw [Nat.div_lt_iff_lt_mul (Nat.two_pow_pos _), ← Nat.pow_add]
      exact (Nat.log2_lt zero).mp (by omega)
    have rounded := roundQuotient_le_succ numerator (2 ^ (numerator.log2 - 52))
    refine iff_of_true ?_ (((Nat.log2_lt zero).mp less).trans_le (by decide +kernel))
    omega
  · have spacing : numerator.log2 - 52 = 2045 := by omega
    have steps : 2 * (2 ^ 53 * 2 ^ 2045) = 2 * ((2 ^ 54 - 1) * 2 ^ 2044) + 2 ^ 2045 := by
      decide +kernel
    rw [spacing, Nat.add_lt_add_iff_left, roundQuotient_lt_iff (pow_pos (by decide) _) (by decide),
      steps, Nat.add_lt_add_iff_right]
    exact Nat.mul_lt_mul_left (by decide)
  · have quotient : 2 ^ 52 ≤ numerator / 2 ^ (numerator.log2 - 52) := by
      rw [Nat.le_div_iff_mul_le (Nat.two_pow_pos _), ← Nat.pow_add]
      exact (Nat.le_log2 zero).mp (by omega)
    have rounded := le_roundQuotient numerator (2 ^ (numerator.log2 - 52))
    refine iff_of_false ?_
      (Nat.not_lt.mpr (le_trans (by decide +kernel) ((Nat.le_log2 zero).mp more)))
    omega

/-- The least magnitude of an integer without a float, half way between the
greatest float and the next power of two. -/
@[irreducible] def limit : Nat := 2 ^ 1024 - 2 ^ 970

theorem nearestRank_one_mul_lt_iff {magnitude : Nat} :
    nearestRank (one * magnitude) 1 < infinityRank ↔ magnitude < limit := by
  have units : (2 ^ 54 - 1) * 2 ^ 2044 = one * limit := by decide +kernel
  rw [nearestRank_lt_infinityRank_iff, units]
  exact Nat.mul_lt_mul_left one_pos

theorem ofInt?_eq_none_iff : ofInt? number = none ↔ limit ≤ number.natAbs := by
  rw [← Nat.not_lt, ← nearestRank_one_mul_lt_iff, ofInt?, ofQuotient?]
  split
  · rename_i inRange
    exact iff_of_false (Option.some_ne_none _) (not_not_intro inRange)
  · rename_i beyond
    exact iff_of_true rfl beyond

/-- The float of an integer is finite, has its sign, and is zero for zero only. -/
theorem ofInt?_eq_some (found : ofInt? number = some value) :
    value.isNaN = false ∧ value.isNegative = decide (number < 0) ∧
      value.isZero = decide (number = 0) := by
  rw [ofInt?, ofQuotient?] at found
  split at found
  · cases found
    refine ⟨rfl, rfl, ?_⟩
    simp only [isZero, decide_eq_decide]
    constructor
    · intro vanishes
      by_contra nonzero
      exact nearestRank_ne_zero (Nat.mul_ne_zero one_pos.ne' (Int.natAbs_ne_zero.mpr nonzero))
        vanishes
    · intro zero
      simp [zero, nearestRank, roundQuotient]
  · cases found

end Binary64

namespace Number

variable {number : Number} {whole : Int} {value : Binary64}

/-- Is the number a float, or an integer in the range of floats? -/
def hasFloat : Number → Bool
  | int value => value.natAbs < Binary64.limit
  | float _ => true

theorem floatOfInt_eq_ok_iff :
    floatOfInt whole = .ok value ↔ Binary64.ofInt? whole = some value := by
  unfold floatOfInt
  cases Binary64.ofInt? whole <;> simp

theorem floatOfInt_of_limit_le (beyond : Binary64.limit ≤ whole.natAbs) :
    floatOfInt whole = .error .conversion := by
  unfold floatOfInt
  rw [Binary64.ofInt?_eq_none_iff.mpr beyond]

theorem toFloat_of_hasFloat (fits : number.hasFloat = true) :
    ∃ value, number.toFloat = .ok value := by
  cases number with
  | float value => exact ⟨value, rfl⟩
  | int whole =>
      have below : ¬ Binary64.limit ≤ whole.natAbs := by simpa [hasFloat] using fits
      obtain ⟨rounded, found⟩ :=
        Option.ne_none_iff_exists'.mp (mt Binary64.ofInt?_eq_none_iff.mp below)
      exact ⟨rounded, floatOfInt_eq_ok_iff.mpr found⟩

theorem toFloat_of_not_hasFloat (beyond : number.hasFloat = false) :
    number.toFloat = .error .conversion := by
  cases number with
  | float value => cases beyond
  | int whole => exact floatOfInt_of_limit_le (by simpa [hasFloat] using beyond)

end Number

end Formulary
