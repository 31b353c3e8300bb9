import Mathlib.Logic.Function.Basic
import Formulary.Text

namespace Formulary

/-! # Code points and their units

A code point is found again from its number, and one beyond the first plane from
the two units that stand for it.
-/

namespace CodePoint

theorem ofValue?_value (point : CodePoint) : ofValue? point.value = some point := by
  cases point with
  | surrogate offset =>
      have range : 0xD800 ≤ 0xD800 + offset.val ∧ 0xD800 + offset.val < 0xE000 := by omega
      simp [ofValue?, value, range]
  | scalar character =>
      have valid : character.toNat.isValidChar := character.valid
      have outside : ¬ (0xD800 ≤ character.toNat ∧ character.toNat < 0xE000) := by
        rcases valid with below | above <;> omega
      unfold ofValue? value
      rw [dif_neg outside, dif_pos valid]
      rfl

@[simp] theorem ofUnit_value (point : CodePoint) : ofUnit point.value = point := by
  rw [ofUnit, ofValue?_value, Option.getD_some]

theorem value_injective : Function.Injective value := by
  intro left right same
  have found := ofValue?_value left
  rw [same, ofValue?_value right] at found
  exact (Option.some.inj found).symm

theorem value_lt (point : CodePoint) : point.value < 0x110000 := by
  cases point with
  | surrogate offset => simp only [value]; omega
  | scalar character =>
      have valid : character.toNat.isValidChar := character.valid
      rcases valid with below | ⟨_, above⟩ <;> simp only [value] <;> omega

def zero : CodePoint := .scalar '\x00'

theorem value_eq_zero_iff {point : CodePoint} : point.value = 0 ↔ point = zero :=
  value_injective.eq_iff' rfl

theorem units_of_supplementary {point : CodePoint} (beyond : ¬ point.value < 0x10000) :
    ∃ high low, point.units = [high, low] ∧ high < 0x10000 ∧ low < 0x10000 ∧
      isHighUnit high = true ∧ isLowUnit low = true ∧ isHighUnit low = false ∧
      ofPair high low = point := by
  have last := point.value_lt
  refine ⟨0xD800 + (point.value - 0x10000) / 0x400, 0xDC00 + (point.value - 0x10000) % 0x400,
    ?_, by omega, by omega, ?_, ?_, ?_, ?_⟩
  · rw [units, if_neg beyond]
  · simp only [isHighUnit, Bool.and_eq_true, decide_eq_true_eq]
    omega
  · simp only [isLowUnit, Bool.and_eq_true, decide_eq_true_eq]
    omega
  · simp only [isHighUnit, Bool.and_eq_false_imp, decide_eq_true_eq, decide_eq_false_iff_not]
    omega
  · have whole : 0x10000 + (0xD800 + (point.value - 0x10000) / 0x400 - 0xD800) * 0x400 +
        (0xDC00 + (point.value - 0x10000) % 0x400 - 0xDC00) = point.value := by omega
    rw [ofPair, whole, ofValue?_value, Option.getD_some]

theorem isHighUnit_of_scalar {point : CodePoint} (scalar : point.isSurrogate = false) :
    isHighUnit point.value = false := by
  cases point with
  | surrogate offset => cases scalar
  | scalar character =>
      have valid : character.toNat.isValidChar := character.valid
      rw [Bool.eq_false_iff]
      intro high
      simp only [isHighUnit, Bool.and_eq_true, decide_eq_true_eq] at high
      rw [value] at high
      rcases valid with below | ⟨above, _⟩ <;> omega

end CodePoint

namespace Text

/-- No half of a surrogate pair stands alone. -/
def Scalar (text : Text) : Prop :=
  ∀ point ∈ text, point.isSurrogate = false

instance (text : Text) : Decidable text.Scalar :=
  inferInstanceAs (Decidable (∀ point ∈ text, point.isSurrogate = false))

end Text

end Formulary
