import Mathlib.Algebra.Order.Field.Power
import Mathlib.Data.Rat.Cast.Order
import Formulary.Proofs.Number.Shortest

namespace Formulary

/-! # Normal decimals

Neither the first digit of a normal decimal nor its last one is zero.  It is the
only normal decimal of its exact value, and the count of its places before the
point tells between which powers of ten the value lies.
-/

namespace Numeral

variable {digits rest : List Digit} {first : Digit}

theorem value_lt : value digits < 10 ^ digits.length := by
  induction digits with
  | nil => exact Nat.one_pos
  | cons digit digits ih =>
      rw [value_cons, List.length_cons, Nat.pow_succ]
      have most := Nat.mul_le_mul_right (10 ^ digits.length) (Nat.le_of_lt_succ digit.isLt)
      omega

theorem le_value (leads : first.val ≠ 0) : 10 ^ rest.length ≤ value (first :: rest) := by
  rw [value_cons]
  exact Nat.le_add_right_of_le (Nat.le_mul_of_pos_left _ (Nat.pos_of_ne_zero leads))

theorem value_ne_zero (leads : first.val ≠ 0) : value (first :: rest) ≠ 0 :=
  Nat.ne_of_gt (Nat.lt_of_lt_of_le (Nat.pow_pos (by decide)) (le_value leads))

theorem value_concat (digits : List Digit) (last : Digit) :
    value (digits ++ [last]) = 10 * value digits + last.val := by
  rw [value_append, Nat.mul_comm]
  simp [value]

theorem digitsOnto_value (leads : first.val ≠ 0) (following : List Digit) :
    digitsOnto (value (first :: rest)) following = first :: rest ++ following := by
  induction rest using List.reverseRecOn generalizing following with
  | nil =>
      have single : value [first] = first.val := by simp [value]
      rw [digitsOnto, single, if_pos first.isLt]
      simp
  | append_singleton rest last ih =>
      have before : value (first :: rest) ≠ 0 := value_ne_zero leads
      have parts : value (first :: (rest ++ [last])) = 10 * value (first :: rest) + last.val :=
        value_concat (first :: rest) last
      have quotient : value (first :: (rest ++ [last])) / 10 = value (first :: rest) := by omega
      have digit : Fin.ofNat 10 (value (first :: (rest ++ [last]))) = last := by
        refine Fin.eq_of_val_eq ?_
        rw [Fin.val_ofNat]
        omega
      rw [digitsOnto, if_neg (by omega), quotient, digit, ih]
      simp

/-- Digits that start with no zero are those of their value. -/
theorem digits_value (leads : first.val ≠ 0) :
    Numeral.digits (value (first :: rest)) = first :: rest := by
  rw [Numeral.digits, digitsOnto_value leads, List.append_nil]

end Numeral

namespace Decimal

theorem normalize_ends (decimal : Decimal) (some : decimal.normalize.digits ≠ []) :
    (decimal.normalize.digits.getLast some).val ≠ 0 := by
  have last := List.rdropWhile_last_not (fun digit : Digit => digit.val = 0) decimal.digits some
  exact fun zero => last (decide_eq_true zero)

theorem tens_pos (exponent : Int) : (0 : ℚ) < 10 ^ exponent :=
  zpow_pos (by norm_num) exponent

/-- The exact value of a coefficient that counts a power of ten. -/
def rational (negative : Bool) (coefficient : Nat) (exponent : Int) : ℚ :=
  (if negative then -1 else 1) * coefficient * 10 ^ exponent

section Rational

variable (negative : Bool) (coefficient : Nat) (exponent : Int)

theorem rational_shift (places : Nat) :
    rational negative (coefficient * 10 ^ places) (exponent - places) =
      rational negative coefficient exponent := by
  have power : (10 : ℚ) ^ exponent = 10 ^ places * 10 ^ (exponent - places) := by
    rw [← zpow_natCast, ← zpow_add₀ (by norm_num)]
    congr 1
    omega
  rw [rational, rational, power]
  push_cast
  ring

theorem abs_rational : |rational negative coefficient exponent| = coefficient * 10 ^ exponent := by
  have sign : |(if negative then -1 else 1 : ℚ)| = 1 := by cases negative <;> simp
  rw [rational, abs_mul, abs_mul, sign, one_mul, Nat.abs_cast, abs_of_pos (tens_pos exponent)]

variable {negative coefficient exponent}

theorem rational_eq_zero_iff : rational negative coefficient exponent = 0 ↔ coefficient = 0 := by
  rw [← abs_eq_zero, abs_rational, mul_eq_zero, or_iff_left (tens_pos exponent).ne',
    Nat.cast_eq_zero]

theorem coefficient_eq {otherNegative : Bool} {otherCoefficient : Nat}
    (same : rational negative coefficient exponent =
      rational otherNegative otherCoefficient exponent) : coefficient = otherCoefficient := by
  have magnitudes := congrArg abs same
  rw [abs_rational, abs_rational, mul_left_inj' (tens_pos exponent).ne'] at magnitudes
  exact_mod_cast magnitudes

theorem rational_neg_iff (some : coefficient ≠ 0) :
    rational negative coefficient exponent < 0 ↔ negative = true := by
  have positive : (0 : ℚ) < coefficient * 10 ^ exponent :=
    mul_pos (by exact_mod_cast Nat.pos_of_ne_zero some) (tens_pos exponent)
  cases negative with
  | true => simpa [rational, neg_mul] using positive
  | false => simpa [rational] using positive.le

end Rational

def toRat (decimal : Decimal) : ℚ :=
  rational decimal.negative (Numeral.value decimal.digits) decimal.exponent

/-- The count of digits before the point. -/
def places (decimal : Decimal) : Int :=
  decimal.digits.length + decimal.exponent

theorem abs_toRat_lt (decimal : Decimal) : |decimal.toRat| < 10 ^ decimal.places := by
  have below : (Numeral.value decimal.digits : ℚ) < 10 ^ decimal.digits.length := by
    exact_mod_cast Numeral.value_lt
  rw [toRat, abs_rational, places, zpow_add₀ (by norm_num), zpow_natCast]
  exact mul_lt_mul_of_pos_right below (tens_pos _)

structure IsNormal (decimal : Decimal) : Prop where
  leads : ∃ first, decimal.digits.head? = some first ∧ first.val ≠ 0
  ends : ∃ last, decimal.digits.getLast? = some last ∧ last.val ≠ 0

namespace IsNormal

variable {decimal other : Decimal}

theorem digits_eq (normal : decimal.IsNormal) :
    ∃ first rest, decimal.digits = first :: rest ∧ first.val ≠ 0 := by
  obtain ⟨first, head, leads⟩ := normal.leads
  obtain ⟨rest, digits⟩ := List.head?_eq_some_iff.mp head
  exact ⟨first, rest, digits, leads⟩

theorem digits_ne_nil (normal : decimal.IsNormal) : decimal.digits ≠ [] := by
  obtain ⟨first, rest, digits, _⟩ := normal.digits_eq
  simp [digits]

theorem value_ne_zero (normal : decimal.IsNormal) : Numeral.value decimal.digits ≠ 0 := by
  obtain ⟨first, rest, digits, leads⟩ := normal.digits_eq
  rw [digits]
  exact Numeral.value_ne_zero leads

theorem toRat_ne_zero (normal : decimal.IsNormal) : decimal.toRat ≠ 0 :=
  fun zero => normal.value_ne_zero (rational_eq_zero_iff.mp zero)

theorem value_mod_ten (normal : decimal.IsNormal) : Numeral.value decimal.digits % 10 ≠ 0 := by
  obtain ⟨last, found, ends⟩ := normal.ends
  obtain ⟨before, digits⟩ := List.getLast?_eq_some_iff.mp found
  rw [digits, Numeral.value_concat]
  omega

theorem digits_value (normal : decimal.IsNormal) :
    Numeral.digits (Numeral.value decimal.digits) = decimal.digits := by
  obtain ⟨first, rest, digits, leads⟩ := normal.digits_eq
  rw [digits, Numeral.digits_value leads]

/-! ## Magnitude -/

theorem le_abs_toRat (normal : decimal.IsNormal) :
    10 ^ (decimal.places - 1) ≤ |decimal.toRat| := by
  obtain ⟨first, rest, digits, leads⟩ := normal.digits_eq
  have above : (10 : ℚ) ^ rest.length ≤ Numeral.value (first :: rest) := by
    exact_mod_cast Numeral.le_value leads
  have power : decimal.places - 1 = rest.length + decimal.exponent := by
    rw [places, digits, List.length_cons]
    omega
  rw [toRat, abs_rational, power, digits, zpow_add₀ (by norm_num), zpow_natCast]
  exact mul_le_mul_of_nonneg_right above (tens_pos _).le

theorem abs_toRat_lt_iff (normal : decimal.IsNormal) {power : Int} :
    |decimal.toRat| < 10 ^ power ↔ decimal.places ≤ power := by
  constructor
  · intro less
    have powers := (zpow_lt_zpow_iff_right₀ (by norm_num)).mp (normal.le_abs_toRat.trans_lt less)
    omega
  · intro within
    exact (abs_toRat_lt decimal).trans_le (zpow_le_zpow_right₀ (by norm_num) within)

theorem le_abs_toRat_iff (normal : decimal.IsNormal) {power : Int} :
    10 ^ power ≤ |decimal.toRat| ↔ power < decimal.places := by
  rw [← not_lt, normal.abs_toRat_lt_iff, not_le]

/-! ## Uniqueness -/

theorem toRat_neg_iff (normal : decimal.IsNormal) :
    decimal.toRat < 0 ↔ decimal.negative = true :=
  rational_neg_iff normal.value_ne_zero

theorem exponent_le (normal : decimal.IsNormal) (same : decimal.toRat = other.toRat) :
    other.exponent ≤ decimal.exponent := by
  by_contra less
  obtain ⟨places, apart⟩ : ∃ places : Nat, other.exponent - (places + 1 : Nat) = decimal.exponent :=
    ⟨(other.exponent - decimal.exponent - 1).toNat, by omega⟩
  rw [toRat, toRat, ← rational_shift _ _ other.exponent (places + 1), apart] at same
  have zero := congrArg (· % 10) (coefficient_eq same)
  simp only [Nat.pow_succ, ← Nat.mul_assoc, Nat.mul_mod_left] at zero
  exact normal.value_mod_ten zero

/-- Normal decimals of one value are equal. -/
theorem eq_of_toRat (normal : decimal.IsNormal) (otherNormal : other.IsNormal)
    (same : decimal.toRat = other.toRat) : decimal = other := by
  have exponents : decimal.exponent = other.exponent :=
    le_antisymm (otherNormal.exponent_le same.symm) (normal.exponent_le same)
  have signs : decimal.negative = other.negative := by
    rw [Bool.eq_iff_iff, ← normal.toRat_neg_iff, ← otherNormal.toRat_neg_iff, same]
  have digits : decimal.digits = other.digits := by
    rw [toRat, toRat, exponents] at same
    rw [← normal.digits_value, ← otherNormal.digits_value, coefficient_eq same]
  calc decimal = ⟨decimal.negative, decimal.digits, decimal.exponent⟩ := rfl
    _ = ⟨other.negative, other.digits, other.exponent⟩ := by rw [signs, digits, exponents]
    _ = other := rfl

end IsNormal

end Decimal

namespace Binary64

/-- The shortest decimal of a float is normal. -/
theorem shortest_isNormal {rank : Fin infinityRank} (negative : Bool) (nonzero : rank.val ≠ 0) :
    (shortest negative rank).IsNormal := by
  obtain ⟨_, first, rest, digits, leads⟩ := shortest_float negative nonzero
  have some : (shortest negative rank).digits ≠ [] := by simp [digits]
  exact ⟨⟨first, by rw [digits, List.head?_cons], leads⟩, _, List.getLast?_eq_some_getLast some,
    Decimal.normalize_ends _ some⟩

end Binary64

end Formulary
