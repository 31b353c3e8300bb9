import Mathlib.Order.Monotone.Basic
import Formulary.Number

namespace Formulary

/-! # Comparing numbers

Two numbers are equal when they are the same multiple of the unit of floats, or
the same infinity; not-a-number is equal to nothing.  Exact quantities, by
which numbers are looked up, tell the same numbers apart.
-/

namespace Binary64

theorem ranksPerScale_eq : ranksPerScale = 4503599627370496 := rfl

theorem one_pos : 0 < one := by decide +kernel

/-- From one rank to the next the magnitude grows: by a unit of the spacing, or
to the first magnitude of the next spacing. -/
theorem units_lt_succ (rank : Nat) : units rank < units (rank + 1) := by
  have spread := ranksPerScale_eq
  have room : 0 < Nat.pow 2 (scale rank) := Nat.pow_pos (by decide)
  by_cases same : scale (rank + 1) = scale rank
  · have grows : significand rank < significand (rank + 1) := by
      simp only [scale, significand, spread] at same ⊢
      omega
    rw [units, units, same]
    exact Nat.mul_lt_mul_of_pos_right grows room
  · have next : scale (rank + 1) = scale rank + 1 := by
      simp only [scale, spread] at same ⊢
      omega
    have doubles : significand rank < significand (rank + 1) * 2 := by
      simp only [scale, significand, spread] at next ⊢
      omega
    have power : Nat.pow 2 (scale rank + 1) = 2 * Nat.pow 2 (scale rank) := Nat.pow_succ'
    rw [units, units, next, power, ← Nat.mul_assoc]
    exact Nat.mul_lt_mul_of_pos_right doubles room

theorem units_strictMono : StrictMono units :=
  strictMono_nat_of_lt_succ units_lt_succ

theorem units_eq_zero {rank : Nat} : units rank = 0 ↔ rank = 0 := by
  have first : units 0 = 0 := by simp [units, significand]
  constructor
  · intro vanishes
    exact units_strictMono.injective (vanishes.trans first.symm)
  · intro same
    subst same
    exact first

theorem natAbs_signedUnits (negative : Bool) (rank : Nat) :
    (signedUnits negative rank).natAbs = units rank := by
  cases negative <;> simp [signedUnits]

/-- The units of a float determine it, the sign of zero aside. -/
theorem signedUnits_eq_iff {left right : Bool} {leftRank rightRank : Nat} :
    signedUnits left leftRank = signedUnits right rightRank ↔
      leftRank = rightRank ∧ (left = right ∨ leftRank = 0) := by
  constructor
  · intro same
    have ranks : leftRank = rightRank := by
      have magnitudes := congrArg Int.natAbs same
      rw [natAbs_signedUnits, natAbs_signedUnits] at magnitudes
      exact units_strictMono.injective magnitudes
    subst ranks
    refine ⟨rfl, ?_⟩
    rw [← units_eq_zero]
    cases left <;> cases right <;> simp [signedUnits] at same ⊢ <;> omega
  · intro given
    obtain ⟨rfl, rfl | rfl⟩ := given
    · rfl
    · have first : units 0 = 0 := units_eq_zero.mpr rfl
      cases left <;> cases right <;> simp [signedUnits, first]

theorem toInt?_finite {negative : Bool} {rank : Fin infinityRank} {whole : Int} :
    (finite negative rank).toInt? = some whole ↔ signedUnits negative rank = whole * one := by
  have divides : units rank % one = 0 ↔ (one : Int) ∣ signedUnits negative rank := by
    rw [← Nat.dvd_iff_mod_eq_zero, ← natAbs_signedUnits negative, Int.ofNat_dvd_left]
  have positive : (one : Int) ≠ 0 := by exact_mod_cast one_pos.ne'
  rw [toInt?]
  split
  · next exact =>
      rw [Option.some.injEq]
      exact Int.ediv_eq_iff_eq_mul_left positive (divides.mp exact)
  · next inexact =>
      refine iff_of_false (by simp) fun same => inexact (divides.mpr ⟨whole, ?_⟩)
      rw [same, Int.mul_comm]

end Binary64

namespace Number

/-- Do two numbers have the same value, as numbers are compared? -/
def equal (left right : Number) : Bool :=
  match left.exactUnits?, right.exactUnits? with
  | some left, some right => left = right
  | none, none => left = right && left ≠ float .nan
  | _, _ => false

variable {left right number : Number} {leftUnits rightUnits units : Int}

theorem float_eq_of_units {value other : Binary64} (nonzero : units ≠ 0)
    (valued : (float value).exactUnits? = some units)
    (otherValued : (float other).exactUnits? = some units) : value = other := by
  cases value with
  | finite negative rank =>
      cases other with
      | finite otherNegative otherRank =>
          cases valued
          obtain ⟨ranks, signs⟩ := Binary64.signedUnits_eq_iff.mp (Option.some.inj otherValued)
          rcases signs with rfl | vanishes
          · rw [Fin.eq_of_val_eq ranks]
          · refine (nonzero ?_).elim
            rw [← Int.natAbs_eq_zero, Binary64.natAbs_signedUnits, Binary64.units_eq_zero, ← ranks]
            exact vanishes
      | _ => cases otherValued
  | _ => cases valued

/-- The quantity of a number that has units is the integer with these units, or
else the number itself. -/
theorem quantity?_of_units (valued : number.exactUnits? = some units) :
    (∃ whole, number.quantity? = some (.whole whole) ∧ units = whole * Binary64.one) ∨
      ∃ value, number = float value ∧ number.quantity? = some (.broken value) ∧
        ∀ whole, units ≠ whole * Binary64.one := by
  cases number with
  | int value => exact .inl ⟨value, rfl, (Option.some.inj valued).symm⟩
  | float value =>
      cases value with
      | nan => cases valued
      | infinity negative => cases valued
      | finite negative rank =>
          cases valued
          cases exact : (Binary64.finite negative rank).toInt? with
          | some whole =>
              exact .inl ⟨whole, by simp only [quantity?, exact], Binary64.toInt?_finite.mp exact⟩
          | none =>
              refine .inr ⟨_, rfl, by simp only [quantity?, exact], fun whole same => ?_⟩
              rw [Binary64.toInt?_finite.mpr same] at exact
              cases exact

/-- Numbers of the same units have the same quantity, and no others do. -/
theorem quantity?_eq_iff (onLeft : left.exactUnits? = some leftUnits)
    (onRight : right.exactUnits? = some rightUnits) :
    left.quantity? = right.quantity? ↔ leftUnits = rightUnits := by
  have cancel {whole other : Int} (same : whole * (Binary64.one : Int) = other * Binary64.one) :
      whole = other :=
    Int.eq_of_mul_eq_mul_right (by exact_mod_cast Binary64.one_pos.ne') same
  rcases quantity?_of_units onLeft with
    ⟨whole, leftQuantity, rfl⟩ | ⟨value, rfl, leftQuantity, inexact⟩
  · rcases quantity?_of_units onRight with
      ⟨other, rightQuantity, rfl⟩ | ⟨value, rfl, rightQuantity, inexact⟩
    · rw [leftQuantity, rightQuantity, Option.some.injEq, Quantity.whole.injEq]
      exact ⟨congrArg (· * (Binary64.one : Int)), cancel⟩
    · rw [leftQuantity, rightQuantity]
      exact iff_of_false (by simp) (inexact whole).symm
  · rcases quantity?_of_units onRight with
      ⟨other, rightQuantity, rfl⟩ | ⟨other, rfl, rightQuantity, _⟩
    · rw [leftQuantity, rightQuantity]
      exact iff_of_false (by simp) (inexact other)
    · rw [leftQuantity, rightQuantity, Option.some.injEq, Quantity.broken.injEq]
      constructor
      · intro same
        subst same
        exact Option.some.inj (onLeft.symm.trans onRight)
      · intro same
        subst same
        have nonzero := inexact 0
        rw [Int.zero_mul] at nonzero
        exact float_eq_of_units nonzero onLeft onRight

theorem quantity?_exists (valued : number.exactUnits? = some units) :
    ∃ quantity, number.quantity? = some quantity := by
  rcases quantity?_of_units valued with ⟨whole, found, _⟩ | ⟨value, _, found, _⟩
  · exact ⟨_, found⟩
  · exact ⟨_, found⟩

theorem exactUnits?_eq_none (unvalued : number.exactUnits? = none) :
    number = float .nan ∨ ∃ negative, number = float (.infinity negative) := by
  cases number with
  | int value => cases unvalued
  | float value =>
      cases value with
      | nan => exact .inl rfl
      | infinity negative => exact .inr ⟨negative, rfl⟩
      | finite negative rank => cases unvalued

theorem quantity?_nan : (float .nan).quantity? = none := rfl

theorem quantity?_infinity (negative : Bool) :
    (float (.infinity negative)).quantity? = some (.broken (.infinity negative)) := rfl

theorem quantity?_ne (onLeft : left.exactUnits? = some leftUnits)
    (onRight : right.exactUnits? = none) : left.quantity? ≠ right.quantity? := by
  rcases exactUnits?_eq_none onRight with rfl | ⟨negative, rfl⟩
  · obtain ⟨quantity, found⟩ := quantity?_exists onLeft
    simp [found, quantity?_nan]
  · rw [quantity?_infinity]
    rcases quantity?_of_units onLeft with ⟨whole, found, _⟩ | ⟨value, rfl, found, _⟩
    · simp [found]
    · rw [found, ne_eq, Option.some.injEq, Quantity.broken.injEq]
      intro same
      subst same
      cases onLeft

theorem equal_iff : left.equal right = true ↔
    ∃ quantity, left.quantity? = some quantity ∧ right.quantity? = some quantity := by
  unfold equal
  cases onLeft : left.exactUnits? with
  | some leftUnits =>
      obtain ⟨quantity, found⟩ := quantity?_exists onLeft
      cases onRight : right.exactUnits? with
      | some rightUnits =>
          rw [decide_eq_true_eq, ← quantity?_eq_iff onLeft onRight, found]
          simp [eq_comm]
      | none =>
          have differs := quantity?_ne onLeft onRight
          rw [found] at differs
          simp [found, differs.symm]
  | none =>
      cases onRight : right.exactUnits? with
      | some rightUnits =>
          obtain ⟨quantity, found⟩ := quantity?_exists onRight
          have differs := quantity?_ne onRight onLeft
          rw [found] at differs
          simp [found, differs.symm]
      | none =>
          rcases exactUnits?_eq_none onLeft with rfl | ⟨leftSign, rfl⟩
          · simp [quantity?_nan]
          · rcases exactUnits?_eq_none onRight with rfl | ⟨rightSign, rfl⟩
            · simp [quantity?_nan]
            · simp [quantity?_infinity, eq_comm]

end Number

end Formulary
