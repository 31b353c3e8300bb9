import Mathlib.Data.List.DropRight
import Formulary.Number.Decimal
import Formulary.Proofs.Number.Digits
import Formulary.Proofs.Number.Rounding

namespace Formulary

/-! # Shortest decimals are read back

Whatever power of ten the search for the shortest decimal of a float ends at,
the decimal that it gives is read as that float.  Its digits start with no zero.
-/

namespace Numeral

variable {digits others : List Digit}

theorem value_append : value (digits ++ others) =
    value digits * 10 ^ others.length + value others := by
  rw [value, List.foldl_append, foldl_value, ← value]

theorem value_zeros (zeros : ∀ digit ∈ digits, digit.val = 0) : value digits = 0 := by
  induction digits with
  | nil => rfl
  | cons digit digits ih =>
      obtain ⟨first, rest⟩ := List.forall_mem_cons.mp zeros
      rw [value_cons, first, ih rest, Nat.zero_mul]

end Numeral

namespace Decimal

/-- The float that a decimal is read as. -/
def float (decimal : Decimal) : Binary64 :=
  .ofDecimal decimal.negative (Numeral.value decimal.digits) decimal.exponent

theorem normalize_split (decimal : Decimal) : ∃ zeros : List Digit,
    decimal.digits = decimal.normalize.digits ++ zeros ∧ ∀ digit ∈ zeros, digit.val = 0 := by
  refine ⟨decimal.digits.rtakeWhile (·.val = 0),
    List.rdropWhile_append_rtakeWhile.symm, fun digit member => ?_⟩
  simpa using List.mem_rtakeWhile_imp member

theorem normalize_float (decimal : Decimal) : decimal.normalize.float = decimal.float := by
  obtain ⟨zeros, split, vanish⟩ := decimal.normalize_split
  have count : decimal.digits.length - decimal.normalize.digits.length = zeros.length := by
    rw [split, List.length_append, Nat.add_sub_cancel_left]
  have exponent : decimal.exponent = decimal.normalize.exponent - zeros.length := by
    have shifted : decimal.normalize.exponent = decimal.exponent +
        (decimal.digits.length - decimal.normalize.digits.length : Nat) := rfl
    rw [shifted, count]
    omega
  have value : Numeral.value decimal.digits =
      Numeral.value decimal.normalize.digits * 10 ^ zeros.length := by
    rw [split, Numeral.value_append, Numeral.value_zeros vanish, Nat.add_zero]
  rw [float, float, value, exponent, Binary64.ofDecimal_shift]
  rfl

theorem normalize_digits (decimal : Decimal) {first : Digit} {rest : List Digit}
    (digits : decimal.digits = first :: rest) (leads : first.val ≠ 0) :
    ∃ others, decimal.normalize.digits = first :: others := by
  obtain ⟨zeros, split, vanish⟩ := decimal.normalize_split
  rw [digits] at split
  cases kept : decimal.normalize.digits with
  | nil =>
      rw [kept, List.nil_append] at split
      exact absurd (vanish first (split ▸ List.mem_cons_self)) leads
  | cons digit others =>
      rw [kept, List.cons_append] at split
      exact ⟨others, by rw [(List.cons.inj split).1]⟩

end Decimal

namespace Binary64

variable {rank : Fin infinityRank} {coefficient : Nat} {exponent : Int}

theorem readsAs_iff : readsAs rank coefficient exponent = true ↔
    ofDecimal false coefficient exponent = finite false rank := by
  rw [readsAs, decide_eq_true_eq]

theorem readsAs_of_gridPoint? (found : gridPoint? rank exponent = some coefficient) :
    readsAs rank coefficient exponent = true := by
  unfold gridPoint? at found
  simp only at found
  split at found
  · cases found
  · cases found
    assumption
  · cases found
    assumption
  · rename_i below above
    split at found
    · cases found
      exact below
    · split at found
      · cases found
        exact above
      · cases found
        rcases Nat.mod_two_eq_zero_or_one
          ((halvesOf rank exponent).1 / (2 * (halvesOf rank exponent).2)) with even | odd
        · rwa [even, Nat.add_zero]
        · rwa [odd]

theorem readsAs_exact (rank : Fin infinityRank) (nonzero : rank.val ≠ 0) :
    readsAs rank (units rank * Nat.pow 5 1074) (-1074) = true := by
  have some : units rank * Nat.pow 5 1074 ≠ 0 :=
    Nat.mul_ne_zero (fun none => nonzero (units_eq_zero.mp none)) (by decide +kernel)
  have tens : one * Nat.pow 5 1074 = 10 ^ 1074 := by decide +kernel
  have quotient : one * (units rank * Nat.pow 5 1074 * 10 ^ (-1074 : Int).toNat) =
      units rank * 10 ^ 1074 := by
    have whole : (-1074 : Int).toNat = 0 := rfl
    rw [← tens, whole]
    ring
  rw [readsAs_iff, ofDecimal_eq _ some, quotient]
  exact ofUnits_units rank (Nat.pow_pos (by decide))

theorem readsAs_shortestFrom (nonzero : rank.val ≠ 0) (attempts : Nat) (exponent : Int) :
    readsAs rank (shortestFrom rank attempts exponent).1 (shortestFrom rank attempts exponent).2 =
      true := by
  induction attempts generalizing exponent with
  | zero => exact readsAs_exact rank nonzero
  | succ attempts ih =>
      unfold shortestFrom
      cases found : gridPoint? rank exponent with
      | some coefficient => exact readsAs_of_gridPoint? found
      | none => exact ih (exponent - 1)

theorem coefficient_ne_zero (nonzero : rank.val ≠ 0)
    (reads : readsAs rank coefficient exponent = true) : coefficient ≠ 0 := by
  rintro rfl
  rw [readsAs_iff, ofDecimal_zero, zero, finite.injEq] at reads
  exact nonzero (congrArg Fin.val reads.2).symm

/-- The shortest decimal of a float is read as the float, and no zero leads its digits. -/
theorem shortest_float (negative : Bool) (nonzero : rank.val ≠ 0) :
    (shortest negative rank).float = finite negative rank ∧
      ∃ first rest, (shortest negative rank).digits = first :: rest ∧ first.val ≠ 0 := by
  have reads := readsAs_shortestFrom nonzero 20 (decimalPlaces rank)
  have some := coefficient_ne_zero nonzero reads
  obtain ⟨first, rest, digits, leads⟩ := Numeral.digits_eq_cons some
  refine ⟨?_, ?_⟩
  · rw [shortest, Decimal.normalize_float, Decimal.float, Numeral.value_digits]
    exact ofDecimal_sign negative some (readsAs_iff.mp reads)
  · obtain ⟨others, kept⟩ := Decimal.normalize_digits
      ⟨negative, _, (shortestFrom rank 20 (decimalPlaces rank)).2⟩ digits leads
    exact ⟨first, others, kept, leads⟩

end Binary64

end Formulary
