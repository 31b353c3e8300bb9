import Formulary.Proofs.Number.NormalDecimal
import Formulary.Proofs.Number.Range

namespace Formulary.Binary64

/-! # Rounding to whole floats

A quotient is rounded to a whole number of steps of its own spacing.  From two to
the power of 53 on the spacing is at least one, and an integer below that is a
number of steps itself, so the float of an integer and every large float is whole.
-/

variable {numerator denominator whole : Nat}

/-- The steps to which a quotient of units is rounded are this power of two apart. -/
def spacing (numerator denominator : Nat) : Nat :=
  (numerator / denominator).log2 - 52

/-- The number of steps of its spacing that a quotient is rounded to. -/
def steps (numerator denominator : Nat) : Nat :=
  roundQuotient numerator (denominator * 2 ^ spacing numerator denominator)

theorem nearestRank_eq (numerator denominator : Nat) : nearestRank numerator denominator =
    2 ^ 52 * spacing numerator denominator + steps numerator denominator := rfl

theorem quotient_lt (numerator denominator : Nat) :
    numerator / (denominator * 2 ^ spacing numerator denominator) < 2 ^ 53 := by
  rw [← Nat.div_div_eq_div_mul, Nat.div_lt_iff_lt_mul (Nat.two_pow_pos _), ← Nat.pow_add]
  calc numerator / denominator < 2 ^ ((numerator / denominator).log2 + 1) := Nat.lt_log2_self
    _ ≤ 2 ^ (53 + spacing numerator denominator) :=
        Nat.pow_le_pow_right (by decide) (by rw [spacing]; omega)

theorem le_quotient (spaced : spacing numerator denominator ≠ 0) :
    2 ^ 52 ≤ numerator / (denominator * 2 ^ spacing numerator denominator) := by
  have nonzero : numerator / denominator ≠ 0 := by
    intro zero
    rw [spacing, zero] at spaced
    exact spaced (by decide)
  rw [← Nat.div_div_eq_div_mul, Nat.le_div_iff_mul_le (Nat.two_pow_pos _), ← Nat.pow_add]
  calc 2 ^ (52 + spacing numerator denominator)
      ≤ 2 ^ (numerator / denominator).log2 :=
        Nat.pow_le_pow_right (by decide) (by rw [spacing] at spaced ⊢; omega)
    _ ≤ numerator / denominator := Nat.log2_self_le nonzero

theorem steps_le (numerator denominator : Nat) : steps numerator denominator ≤ 2 ^ 53 :=
  Nat.le_trans (roundQuotient_le_succ _ _) (quotient_lt numerator denominator)

theorem le_steps (spaced : spacing numerator denominator ≠ 0) :
    2 ^ 52 ≤ steps numerator denominator :=
  Nat.le_trans (le_quotient spaced) (le_roundQuotient _ _)

/-- The magnitude that a quotient is rounded to. -/
theorem units_nearestRank (numerator denominator : Nat) :
    units (nearestRank numerator denominator) =
      steps numerator denominator * 2 ^ spacing numerator denominator := by
  have least : spacing numerator denominator ≠ 0 → 2 ^ 52 ≤ steps numerator denominator :=
    le_steps
  have most := steps_le numerator denominator
  rw [nearestRank_eq]
  generalize steps numerator denominator = steps at least most
  generalize spacing numerator denominator = spacing at least
  rcases Nat.lt_or_eq_of_le most with below | top
  · have scaled : scale (2 ^ 52 * spacing + steps) = spacing := by
      simp only [scale, ranksPerScale_eq]
      omega
    have count : significand (2 ^ 52 * spacing + steps) = steps := by
      simp only [significand, scaled, ranksPerScale_eq]
      omega
    rw [units, scaled, count, Nat.pow_eq]
  · -- the greatest number of steps makes the first magnitude of the next scale
    have scaled : scale (2 ^ 52 * spacing + steps) = spacing + 1 := by
      simp only [scale, ranksPerScale_eq]
      omega
    have first : significand (2 ^ 52 * spacing + steps) = 2 ^ 52 := by
      simp only [significand, scaled, ranksPerScale_eq]
      omega
    rw [units, scaled, first, top, Nat.pow_eq, Nat.pow_succ]
    ring

theorem roundQuotient_of_dvd {step : Nat} (positive : 0 < step) (divides : step ∣ numerator) :
    roundQuotient numerator step * step = numerator := by
  obtain ⟨count, rfl⟩ := divides
  rw [Nat.mul_comm step count, roundQuotient_mul_self count positive]

/-- One is a power of two units.  The power has a name of its own, so that it is
not worked out. -/
theorem one_eq_two_pow : ∃ places, 1074 = places ∧ one = 2 ^ places := by
  obtain ⟨places, same⟩ : ∃ places, 1074 = places := ⟨_, rfl⟩
  refine ⟨places, same, ?_⟩
  unfold one
  rw [same]
  rfl

theorem two_pow_dvd_one {power : Nat} (within : power ≤ 1074) : 2 ^ power ∣ one := by
  obtain ⟨places, same, unit⟩ := one_eq_two_pow
  rw [unit]
  exact Nat.pow_dvd_pow 2 (same ▸ within)

theorem one_dvd_two_pow {power : Nat} (beyond : 1074 ≤ power) : one ∣ 2 ^ power := by
  obtain ⟨places, same, unit⟩ := one_eq_two_pow
  rw [unit]
  exact Nat.pow_dvd_pow 2 (same ▸ beyond)

theorem one_dvd_of_spacing (spaced : 1074 ≤ spacing numerator denominator) :
    one ∣ units (nearestRank numerator denominator) := by
  rw [units_nearestRank]
  exact Nat.dvd_mul_left_of_dvd (one_dvd_two_pow spaced) _

/-- Where integers are no further apart than steps, they are not rounded. -/
theorem units_nearestRank_whole (spaced : spacing (one * whole) 1 ≤ 1074) :
    units (nearestRank (one * whole) 1) = one * whole := by
  have divides := Nat.dvd_mul_right_of_dvd (two_pow_dvd_one spaced) whole
  rw [units_nearestRank, steps, Nat.one_mul]
  exact roundQuotient_of_dvd (Nat.two_pow_pos _) divides

/-- The float of an integer is whole. -/
theorem one_dvd_units_whole (whole : Nat) : one ∣ units (nearestRank (one * whole) 1) := by
  rcases Nat.le_total (spacing (one * whole) 1) 1074 with narrow | wide
  · rw [units_nearestRank_whole narrow]
    exact Nat.dvd_mul_right one whole
  · exact one_dvd_of_spacing wide

/-- A float is whole if the quotient that it is rounded from is large. -/
theorem one_dvd_units_of_large (large : one * 2 ^ 53 ≤ numerator / denominator) :
    one ∣ units (nearestRank numerator denominator) := by
  have exponent : 1074 + 53 ≤ (numerator / denominator).log2 := by
    obtain ⟨places, same, unit⟩ := one_eq_two_pow
    rw [unit, ← Nat.pow_add] at large
    have nonzero : numerator / denominator ≠ 0 := (Nat.lt_of_lt_of_le (Nat.two_pow_pos _) large).ne'
    rw [same]
    exact (Nat.le_log2 nonzero).mpr large
  exact one_dvd_of_spacing (Nat.le_sub_of_add_le (Nat.le_trans (by decide) exponent))

theorem nearestRank_of_ofUnits {negative otherNegative : Bool} {rank : Fin infinityRank}
    (made : ofUnits negative numerator denominator = finite otherNegative rank) :
    nearestRank numerator denominator = rank := by
  rw [ofUnits] at made
  split at made
  · cases made
    rfl
  · cases made

/-- A decimal is read as a whole float if it is an integer, or has many places
before its point. -/
theorem one_dvd_units_of_float {decimal : Decimal} {negative : Bool} {rank : Fin infinityRank}
    (normal : decimal.IsNormal) (float : decimal.float = finite negative rank)
    (far : 0 ≤ decimal.exponent ∨ 16 < decimal.places) : one ∣ units rank := by
  rw [Decimal.float, ofDecimal_eq _ normal.value_ne_zero] at float
  rw [← nearestRank_of_ofUnits float]
  by_cases upward : 0 ≤ decimal.exponent
  · have noFraction : (-decimal.exponent).toNat = 0 := by omega
    rw [noFraction, Nat.pow_zero]
    exact one_dvd_units_whole _
  · obtain ⟨first, rest, digits, leads⟩ := normal.digits_eq
    have many : 16 + (-decimal.exponent).toNat ≤ rest.length := by
      have places : decimal.places = decimal.digits.length + decimal.exponent := rfl
      rw [digits, List.length_cons] at places
      omega
    refine one_dvd_units_of_large ((Nat.le_div_iff_mul_le (Nat.pow_pos (by decide))).mpr ?_)
    rw [Nat.mul_assoc]
    refine Nat.mul_le_mul_left one ?_
    calc 2 ^ 53 * 10 ^ (-decimal.exponent).toNat
        ≤ 10 ^ 16 * 10 ^ (-decimal.exponent).toNat := Nat.mul_le_mul_right _ (by decide)
      _ = 10 ^ (16 + (-decimal.exponent).toNat) := (Nat.pow_add ..).symm
      _ ≤ 10 ^ rest.length := Nat.pow_le_pow_right (by decide) many
      _ ≤ Numeral.value decimal.digits := by
          rw [digits]
          exact Numeral.le_value leads
      _ ≤ Numeral.value decimal.digits * 10 ^ decimal.exponent.toNat :=
          Nat.le_mul_of_pos_right _ (Nat.pow_pos (by decide))

/-! ## Shortest decimals of whole floats -/

variable {rank : Fin infinityRank} {exponent : Int}

theorem readsAs_whole (exact : units rank = one * whole) (nonzero : whole ≠ 0) :
    readsAs rank whole 0 = true := by
  rw [readsAs_iff, ofDecimal_eq _ nonzero]
  have quotient : one * (whole * 10 ^ (0 : Int).toNat) = units rank * 1 := by
    rw [exact, Int.toNat_zero, Nat.pow_zero, Nat.mul_one, Nat.mul_one]
  rw [quotient, Int.neg_zero, Int.toNat_zero, Nat.pow_zero]
  exact ofUnits_units rank Nat.one_pos

theorem gridPoint?_ne_none (below :
    readsAs rank ((halvesOf rank exponent).1 / (2 * (halvesOf rank exponent).2)) exponent = true) :
    gridPoint? rank exponent ≠ none := by
  intro none
  unfold gridPoint? at none
  simp only at none
  split at none
  · rename_i missed _
    rw [below] at missed
    cases missed
  · cases none
  · cases none
  · split at none
    · cases none
    · split at none <;> cases none

theorem gridPoint?_whole (exact : units rank = one * whole) (nonzero : whole ≠ 0) :
    gridPoint? rank 0 ≠ none := by
  have unit : Nat.pow 10 (0 : Int).natAbs = 1 := rfl
  have halves : halvesOf rank 0 = (2 * units rank, one) := by
    rw [halvesOf, if_pos (Int.le_refl 0), unit, Nat.mul_one]
  refine gridPoint?_ne_none ?_
  rw [halves, exact, Nat.mul_div_mul_left _ _ (by decide), Nat.mul_div_cancel_left _ one_pos]
  exact readsAs_whole exact nonzero

/-- The search stops at a power of ten that has a hit, if it comes as far. -/
theorem le_shortestFrom (attempts : Nat) (start : Int) (found : gridPoint? rank exponent ≠ none)
    (above : exponent ≤ start) (reached : start < exponent + attempts) :
    exponent ≤ (shortestFrom rank attempts start).2 := by
  induction attempts generalizing start with
  | zero => omega
  | succ attempts ih =>
      unfold shortestFrom
      cases here : gridPoint? rank start with
      | some coefficient => exact above
      | none =>
          have further : exponent ≠ start := by
            intro same
            exact found (same ▸ here)
          exact ih (start - 1) (by omega) (by omega)

theorem decimalPlaces_bounds (exact : units rank = one * whole) (nonzero : whole ≠ 0)
    (small : whole < 2 ^ 53) : 0 ≤ decimalPlaces rank ∧ decimalPlaces rank < 20 := by
  have scaled : (units rank).log2 = whole.log2 + 1074 := by
    obtain ⟨places, same, unit⟩ := one_eq_two_pow
    have positive := Nat.two_pow_pos places
    rw [exact, unit, same, Nat.mul_comm,
      Nat.log2_eq_iff (Nat.mul_ne_zero nonzero positive.ne'), Nat.pow_add, Nat.add_right_comm,
      Nat.pow_add]
    exact ⟨Nat.mul_le_mul_right _ (Nat.log2_self_le nonzero),
      Nat.mul_lt_mul_of_pos_right Nat.lt_log2_self positive⟩
  have exponent : whole.log2 < 53 := (Nat.log2_lt nonzero).mpr small
  rw [decimalPlaces, scaled]
  omega

/-- Below two to the power of 53 no other integer is rounded to a whole float. -/
theorem eq_of_units_nearestRank {integer : Nat} (small : whole < 2 ^ 53)
    (rounded : units (nearestRank (one * integer) 1) = one * whole) : integer = whole := by
  rcases le_or_gt (spacing (one * integer) 1) 1074 with narrow | wide
  · rw [units_nearestRank_whole narrow] at rounded
    exact Nat.eq_of_mul_eq_mul_left one_pos rounded
  · obtain ⟨places, same, unit⟩ := one_eq_two_pow
    have spaced : spacing (one * integer) 1 ≠ 0 := Nat.ne_zero_of_lt wide
    have shifted : one * 2 ^ 53 = 2 ^ 52 * 2 ^ (places + 1) := by
      rw [unit]
      ring
    have large : one * 2 ^ 53 ≤ units (nearestRank (one * integer) 1) := by
      rw [units_nearestRank, shifted]
      exact Nat.mul_le_mul (le_steps spaced) (Nat.pow_le_pow_right (by decide) (same ▸ wide))
    rw [rounded] at large
    exact absurd small (Nat.not_lt.mpr (Nat.le_of_mul_le_mul_left large one_pos))

theorem le_normalize_exponent (decimal : Decimal) : decimal.exponent ≤ decimal.normalize.exponent :=
  Int.le_add_of_nonneg_right (Int.natCast_nonneg _)

/-- The shortest decimal of a whole float below two to the power of 53 is its value. -/
theorem shortest_toRat_of_small (negative : Bool) (exact : units rank = one * whole)
    (nonzero : whole ≠ 0) (small : whole < 2 ^ 53) :
    (shortest negative rank).toRat = Decimal.rational negative whole 0 := by
  have some : rank.val ≠ 0 := by
    intro zero
    rw [units_eq_zero.mpr zero] at exact
    exact Nat.mul_ne_zero one_pos.ne' nonzero exact.symm
  obtain ⟨least, most⟩ := decimalPlaces_bounds exact nonzero small
  have reached : decimalPlaces rank < 0 + (20 : Nat) := by omega
  have upward : 0 ≤ (shortest negative rank).exponent :=
    (le_shortestFrom 20 _ (gridPoint?_whole exact nonzero) least reached).trans
      (le_normalize_exponent _)
  have normal := shortest_isNormal negative some
  obtain ⟨float, _⟩ := shortest_float negative some
  have noFraction : (-(shortest negative rank).exponent).toNat = 0 := by omega
  rw [Decimal.float, ofDecimal_eq _ normal.value_ne_zero, noFraction, Nat.pow_zero] at float
  have same := eq_of_units_nearestRank small ((nearestRank_of_ofUnits float).symm ▸ exact)
  have places : (shortest negative rank).exponent - (shortest negative rank).exponent.toNat = 0 := by
    omega
  rw [Decimal.toRat, ← Decimal.rational_shift _ _ _ (shortest negative rank).exponent.toNat, same,
    places]
  rfl

end Formulary.Binary64
