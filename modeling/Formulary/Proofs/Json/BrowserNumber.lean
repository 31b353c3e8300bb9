import Formulary.Proofs.Json.ExactNumber
import Formulary.Proofs.Json.FloatLiteral

namespace Formulary

/-! # Numbers as a browser shows them

The digits of a normal decimal fall into the parts of a number in JSON in one of
four ways, which its exponent and the count of its places before the point decide.
The number has the value of the decimal, and no zero that it could do without.
-/

namespace Numeral

theorem padded_one (number : Nat) : padded 1 number = ofNat number := by
  obtain ⟨first, rest, digits⟩ := List.exists_cons_of_ne_nil (digits_ne_nil number)
  simp [padded, ofNat, digits, write]

end Numeral

open Numeral Json

namespace Json.NumberToken

/-- No zero stands at the end of the digits behind the point. -/
def IsTrim (token : NumberToken) : Prop :=
  ∀ digit, token.fraction.getLast? = some digit → digit.val ≠ 0

/-- One digit before the point, and an exponent; neither starts with a zero. -/
inductive IsScientific : NumberToken → Prop where
  | parts (negative : Bool) {digit : Digit} (fraction : List Digit) (below : Bool)
      {digits : List Digit} (leads : digit.val ≠ 0) (unpadded : Unpadded digits)
      (nonzero : value digits ≠ 0) :
      IsScientific ⟨negative, [digit], fraction, some (below, digits)⟩

theorem power_signed (negative : Bool) (whole fraction : List Digit) (power : Int) :
    NumberToken.power ⟨negative, whole, fraction,
      some (decide (power < 0), Numeral.digits power.natAbs)⟩ = power := by
  simp only [NumberToken.power, value_digits, decide_eq_true_eq]
  split <;> omega

end Json.NumberToken

namespace Decimal

/-- How the digits of a decimal are shown. -/
inductive ShownAs (decimal : Decimal) : NumberToken → Prop where
  | upward (whole : 0 ≤ decimal.exponent) (fits : decimal.places ≤ 21) :
      ShownAs decimal ⟨decimal.negative,
        decimal.digits ++ List.replicate decimal.exponent.natAbs ⟨0, by decide⟩, [], none⟩
  | inside (broken : decimal.exponent < 0) (before : 0 < decimal.places)
      (fits : decimal.places ≤ 21) :
      ShownAs decimal ⟨decimal.negative, decimal.digits.take decimal.places.natAbs,
        decimal.digits.drop decimal.places.natAbs, none⟩
  | downward (behind : decimal.places ≤ 0) (near : -6 < decimal.places) :
      ShownAs decimal ⟨decimal.negative, [⟨0, by decide⟩],
        List.replicate decimal.places.natAbs ⟨0, by decide⟩ ++ decimal.digits, none⟩
  | scaled (far : decimal.places ≤ -6 ∨ 21 < decimal.places) :
      ShownAs decimal ⟨decimal.negative, decimal.digits.take 1, decimal.digits.drop 1,
        some (decide (decimal.places - 1 < 0), Numeral.digits (decimal.places - 1).natAbs)⟩

variable {decimal : Decimal} {token : NumberToken}

theorem scientific_text (decimal : Decimal) (nonempty : decimal.digits ≠ []) :
    NumberToken.text ⟨decimal.negative, decimal.digits.take 1, decimal.digits.drop 1,
        some (decide (decimal.places - 1 < 0), Numeral.digits (decimal.places - 1).natAbs)⟩ =
      signed decimal.negative (Layout.browser.scientific decimal.digits decimal.exponent) := by
  obtain ⟨negative, digits, exponent⟩ := decimal
  obtain ⟨first, rest, rfl⟩ := List.exists_cons_of_ne_nil nonempty
  have width : Layout.browser.exponentWidth = 1 := rfl
  cases rest with
  | nil => simp [NumberToken.text, NumberToken.fractionText, NumberToken.exponentText, places,
      Layout.scientific, width, padded_one, Numeral.ofNat]
  | cons next rest => simp [NumberToken.text, NumberToken.fractionText, NumberToken.exponentText,
      places, Layout.scientific, width, padded_one, Numeral.ofNat, Text.ofString]

theorem shownAs_positional (nonempty : decimal.digits ≠ []) (near : -6 < decimal.places)
    (fits : decimal.places ≤ 21) :
    ∃ token, decimal.ShownAs token ∧ token.text = signed decimal.negative
      (Layout.browser.positional decimal.digits decimal.exponent) := by
  have count : (decimal.digits.length : Int) + decimal.exponent = decimal.places := rfl
  simp only [Layout.positional, count]
  by_cases whole : 0 ≤ decimal.exponent
  · refine ⟨_, .upward whole fits, ?_⟩
    rw [if_pos whole, ← write_zeros, ← write_append]
    rfl
  · rw [if_neg whole]
    by_cases before : 0 < decimal.places
    · refine ⟨_, .inside (by omega) before fits, ?_⟩
      have behind : decimal.digits.drop decimal.places.natAbs ≠ [] := by
        rw [ne_eq, List.drop_eq_nil_iff]
        omega
      rw [if_pos before, NumberToken.text, NumberToken.fractionText_of_ne_nil behind]
      simp [NumberToken.exponentText, Text.ofString]
    · refine ⟨_, .downward (by omega) near, ?_⟩
      have behind : List.replicate decimal.places.natAbs ⟨0, by decide⟩ ++ decimal.digits ≠ [] := by
        simp [nonempty]
      rw [if_neg before, NumberToken.text, NumberToken.fractionText_of_ne_nil behind]
      simp only [NumberToken.exponentText, write_append, write_zeros, List.append_nil]
      rfl

/-- The digits of a decimal are shown in one of the four ways. -/
theorem exists_shownAs (nonempty : decimal.digits ≠ []) :
    ∃ token, decimal.ShownAs token ∧ token.text = Layout.browser.write decimal := by
  have shown : Layout.browser.write decimal = signed decimal.negative
      (if -5 ≤ decimal.places ∧ decimal.places ≤ 21 then
        Layout.browser.positional decimal.digits decimal.exponent
      else Layout.browser.scientific decimal.digits decimal.exponent) := rfl
  rw [shown]
  split
  · exact shownAs_positional nonempty (by omega) (by omega)
  · exact ⟨_, .scaled (by omega), scientific_text decimal nonempty⟩

/-! ## What is shown -/

namespace ShownAs

theorem isValid (shown : decimal.ShownAs token) (normal : decimal.IsNormal) : token.IsValid := by
  obtain ⟨first, rest, digits, leads⟩ := normal.digits_eq
  cases shown with
  | upward whole fits =>
      refine ⟨?_, nofun⟩
      rw [digits]
      exact .digits leads
  | inside broken before fits =>
      refine ⟨?_, nofun⟩
      obtain ⟨count, more⟩ : ∃ count, decimal.places.natAbs = count + 1 :=
        ⟨decimal.places.natAbs - 1, by omega⟩
      rw [digits, more]
      exact .digits leads
  | downward behind near => exact ⟨.zero, nofun⟩
  | scaled far =>
      refine ⟨?_, fun negative counted same => ?_⟩
      · rw [digits]
        exact .digits leads
      · cases same
        exact digits_ne_nil _

theorem toRat_eq (shown : decimal.ShownAs token) (normal : decimal.IsNormal) :
    token.toRat = decimal.toRat := by
  obtain ⟨first, rest, digits, leads⟩ := normal.digits_eq
  have count : decimal.digits.length = rest.length + 1 := by rw [digits, List.length_cons]
  have places : decimal.places = decimal.digits.length + decimal.exponent := rfl
  cases shown with
  | upward whole fits =>
      have place : (0 : Int) - ([] : List Digit).length =
          decimal.exponent - decimal.exponent.natAbs := by
        rw [List.length_nil]
        omega
      rw [NumberToken.toRat, List.append_nil, value_append, value_replicate_zero,
        List.length_replicate, Nat.add_zero]
      exact (congrArg _ place).trans (rational_shift _ _ _ _)
  | inside broken before fits =>
      have place : (0 : Int) - (decimal.digits.drop decimal.places.natAbs).length =
          decimal.exponent := by
        rw [List.length_drop]
        omega
      rw [NumberToken.toRat, List.take_append_drop]
      exact congrArg _ place
  | downward behind near =>
      have place : (0 : Int) - (List.replicate decimal.places.natAbs (⟨0, by decide⟩ : Digit) ++
          decimal.digits).length = decimal.exponent := by
        rw [List.length_append, List.length_replicate]
        omega
      have coefficient : value ([⟨0, by decide⟩] ++
          (List.replicate decimal.places.natAbs ⟨0, by decide⟩ ++ decimal.digits)) =
            value decimal.digits := by
        rw [value_append, value_append, value_replicate_zero]
        simp [value]
      rw [NumberToken.toRat, coefficient]
      exact congrArg _ place
  | scaled far =>
      have place : decimal.places - 1 - (decimal.digits.drop 1).length = decimal.exponent := by
        rw [List.length_drop]
        omega
      rw [NumberToken.toRat, NumberToken.power_signed, List.take_append_drop]
      exact congrArg _ place

theorem isTrim (shown : decimal.ShownAs token) (normal : decimal.IsNormal) : token.IsTrim := by
  obtain ⟨last, found, ends⟩ := normal.ends
  have kept {fraction : List Digit} {digit : Digit} (suffix : fraction <:+ decimal.digits)
      (same : fraction.getLast? = some digit) : digit.val ≠ 0 := by
    obtain ⟨before, joined⟩ := suffix
    rw [← joined, List.getLast?_append, same, Option.some_or] at found
    cases found
    exact ends
  intro digit same
  cases shown with
  | upward whole fits => cases same
  | inside broken before fits => exact kept (List.drop_suffix _ _) same
  | downward behind near =>
      rw [List.getLast?_append, found, Option.some_or] at same
      cases same
      exact ends
  | scaled far => exact kept (List.drop_suffix _ _) same

theorem exponent_eq_none_iff (shown : decimal.ShownAs token) :
    token.exponent = none ↔ -6 < decimal.places ∧ decimal.places ≤ 21 := by
  have places : decimal.places = decimal.digits.length + decimal.exponent := rfl
  cases shown with
  | upward whole fits => exact iff_of_true rfl ⟨by omega, fits⟩
  | inside broken before fits => exact iff_of_true rfl ⟨by omega, fits⟩
  | downward behind near => exact iff_of_true rfl ⟨near, by omega⟩
  | scaled far => exact iff_of_false nofun (by omega)

theorem isScientific (shown : decimal.ShownAs token) (normal : decimal.IsNormal)
    (scaled : token.exponent ≠ none) : token.IsScientific := by
  obtain ⟨first, rest, digits, leads⟩ := normal.digits_eq
  cases shown with
  | scaled far =>
      rw [digits]
      refine .parts decimal.negative rest _ leads (unpadded_digits _) ?_
      rw [value_digits]
      omega
  | _ => exact absurd rfl scaled

theorem length_whole_le (shown : decimal.ShownAs token) : token.whole.length ≤ 21 := by
  have places : decimal.places = decimal.digits.length + decimal.exponent := rfl
  cases shown with
  | upward whole fits =>
      simp only [List.length_append, List.length_replicate]
      omega
  | inside broken before fits =>
      simp only [List.length_take]
      omega
  | downward behind near => exact (by decide : 1 ≤ 21)
  | scaled far =>
      simp only [List.length_take]
      omega

end ShownAs

namespace IsNormal

variable {other : Decimal}

/-- Different decimals are shown differently. -/
theorem eq_of_write (normal : decimal.IsNormal) (otherNormal : other.IsNormal)
    (same : Layout.browser.write decimal = Layout.browser.write other) : decimal = other := by
  obtain ⟨token, shown, text⟩ := exists_shownAs normal.digits_ne_nil
  obtain ⟨otherToken, otherShown, otherText⟩ := exists_shownAs otherNormal.digits_ne_nil
  have values : token.toRat = otherToken.toRat :=
    (shown.isValid normal).toRat_eq (otherShown.isValid otherNormal) (by rw [text, same, otherText])
  rw [shown.toRat_eq normal, otherShown.toRat_eq otherNormal] at values
  exact normal.eq_of_toRat otherNormal values

end IsNormal

end Decimal

namespace Layout

variable {decimal : Decimal}

/-- What a browser shows for a normal decimal is a number in JSON with the value
of the decimal and no zeros to spare.  It has an exponent just if the magnitude is
below the sixth decimal place or has more than twenty-one places, and no other
decimal is shown as the same. -/
theorem browser_write (normal : decimal.IsNormal) :
    (∃ token : NumberToken, token.IsValid ∧ token.text = Layout.browser.write decimal ∧
      token.toRat = decimal.toRat ∧ token.IsTrim ∧
      (CodePoint.scalar 'e' ∈ Layout.browser.write decimal → token.IsScientific)) ∧
    (∃ number, read .strict (Layout.browser.write decimal) = .ok (.number number)) ∧
    (CodePoint.scalar 'e' ∉ Layout.browser.write decimal ↔
      10 ^ (-6 : Int) ≤ |decimal.toRat| ∧ |decimal.toRat| < 10 ^ (21 : Int)) ∧
    ∀ other : Decimal, other.IsNormal →
      Layout.browser.write other = Layout.browser.write decimal → other = decimal := by
  obtain ⟨token, shown, text⟩ := Decimal.exists_shownAs normal.digits_ne_nil
  have valid := shown.isValid normal
  have value := shown.toRat_eq normal
  rw [← text, NumberToken.mark_notMem_text, shown.exponent_eq_none_iff, normal.le_abs_toRat_iff,
    normal.abs_toRat_lt_iff]
  refine ⟨⟨token, valid, rfl, value, shown.isTrim normal, fun marked => ?_⟩, ?_, Iff.rfl, ?_⟩
  · refine shown.isScientific normal fun none => ?_
    exact NumberToken.mark_notMem_text.mpr none marked
  · exact valid.read_text (shown.length_whole_le.trans (by decide)) (value ▸ normal.toRat_ne_zero)
  · intro other otherNormal same
    exact otherNormal.eq_of_write normal (same.trans text)

/-- The decimal of a float that is too small to be shown without an exponent. -/
def tiny : Decimal := ⟨true, [⟨1, by decide⟩, ⟨2, by decide⟩], -8⟩

theorem browser_write_tiny :
    tiny.IsNormal ∧ Number.floatBrowser (.ofDecimal true 12 (-8)) = Layout.browser.write tiny ∧
      ∃ token : NumberToken, token.IsValid ∧ token.text = "-1.2e-7" ∧
        token.toRat = tiny.toRat ∧ token.IsTrim ∧ token.IsScientific := by
  have normal : tiny.IsNormal := ⟨⟨_, rfl, by decide⟩, _, rfl, by decide⟩
  have shown : Layout.browser.write tiny = "-1.2e-7" := by decide +kernel
  obtain ⟨⟨token, valid, text, value, trim, scientific⟩, _⟩ := browser_write normal
  exact ⟨normal, by decide +kernel, token, valid, text.trans shown, value, trim,
    scientific (by rw [shown]; decide)⟩

end Layout

namespace Number

/-- Floats other than zero are shown differently if they differ. -/
theorem floatBrowser_injective {negative otherNegative : Bool}
    {rank otherRank : Fin Binary64.infinityRank} (nonzero : rank.val ≠ 0)
    (otherNonzero : otherRank.val ≠ 0)
    (same : floatBrowser (.finite negative rank) = floatBrowser (.finite otherNegative otherRank)) :
    Binary64.finite negative rank = .finite otherNegative otherRank := by
  rw [floatBrowser, floatBrowser, if_neg nonzero, if_neg otherNonzero, writeFinite, writeFinite]
    at same
  have decimals := (Binary64.shortest_isNormal negative nonzero).eq_of_write
    (Binary64.shortest_isNormal otherNegative otherNonzero) same
  rw [← (Binary64.shortest_float negative nonzero).1,
    ← (Binary64.shortest_float otherNegative otherNonzero).1, decimals]

end Number

end Formulary
