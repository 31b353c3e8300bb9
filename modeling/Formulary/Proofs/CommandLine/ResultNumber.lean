import Formulary.Proofs.Json.BrowserNumber
import Formulary.Proofs.Number.Comparison
import Formulary.Proofs.Number.WholeFloat

namespace Formulary

/-! # Numbers on result lines

A result line shows a whole float with all its digits and any other float as its
literal.  A browser shows the same text as long as a whole number is short and the
digits of the float are all that there are, and a fraction is so large that its
literal has no exponent, or so small that its exponent has two digits in any case.
-/

open Numeral Json

namespace Numeral

theorem two_le_length_ofNat_iff (number : Nat) : 2 ≤ (ofNat number).length ↔ 10 ≤ number := by
  have length : (ofNat number).length = (digits number).length := List.length_map ..
  rw [length]
  constructor
  · intro long
    by_contra small
    rw [digits, digitsOnto, if_pos (by omega), List.length_singleton] at long
    omega
  · intro large
    by_contra short
    have below : value (digits number) < 10 ^ (digits number).length := value_lt
    have least : 10 ^ (digits number).length ≤ 10 ^ 1 :=
      Nat.pow_le_pow_right (by decide) (by omega)
    rw [value_digits] at below
    omega

/-- A number is not padded to two digits just if it has two digits. -/
theorem padded_two_eq_iff (number : Nat) : padded 2 number = padded 1 number ↔ 10 ≤ number := by
  rw [padded_one, padded, List.append_left_eq_self, List.replicate_eq_nil_iff,
    ← two_le_length_ofNat_iff]
  omega

end Numeral

theorem Json.signed_inj {negative : Bool} {left right : Text} :
    signed negative left = signed negative right ↔ left = right := by
  cases negative <;> simp [signed]

/-! ## Fractions -/

namespace Layout

variable {digits : List Digit} {exponent : Int} {decimal : Decimal}

theorem mark_mem_scientific (layout : Layout) (digits : List Digit) (exponent : Int) :
    .scalar 'e' ∈ layout.scientific digits exponent := by
  have mark (negative : Prop) [Decidable negative] :
      .scalar 'e' ∈ (if negative then "e-" else "e+" : Text) := by
    split <;> decide
  simp [scientific, mark]

theorem positional_of_broken (broken : exponent < 0) :
    literal.positional digits exponent = browser.positional digits exponent := by
  simp only [positional, if_neg (Int.not_le.mpr broken)]

theorem scientific_eq_iff : literal.scientific digits exponent = browser.scientific digits exponent ↔
    10 ≤ (digits.length + exponent - 1).natAbs := by
  rw [← padded_two_eq_iff]
  exact List.append_right_inj _

theorem write_eq_iff (broken : decimal.exponent < 0) (fits : decimal.places ≤ 16)
    (nonempty : decimal.digits ≠ []) :
    literal.write decimal = browser.write decimal ↔
      -3 ≤ decimal.places ∨ decimal.places ≤ -9 := by
  have onLiteral : literal.write decimal = signed decimal.negative
      (if -3 ≤ decimal.places ∧ decimal.places ≤ 16 then
        literal.positional decimal.digits decimal.exponent
      else literal.scientific decimal.digits decimal.exponent) := rfl
  have onBrowser : browser.write decimal = signed decimal.negative
      (if -5 ≤ decimal.places ∧ decimal.places ≤ 21 then
        browser.positional decimal.digits decimal.exponent
      else browser.scientific decimal.digits decimal.exponent) := rfl
  by_cases large : -3 ≤ decimal.places
  · refine iff_of_true ?_ (.inl large)
    rw [onLiteral, onBrowser, if_pos ⟨large, fits⟩, if_pos (by omega), positional_of_broken broken]
  have scientific := mark_mem_scientific literal decimal.digits decimal.exponent
  by_cases near : -5 ≤ decimal.places
  · -- one of the two texts has an exponent and the other one has none
    refine iff_of_false (fun same => ?_) (by omega)
    obtain ⟨token, shown, text⟩ := Decimal.exists_shownAs nonempty
    have unmarked := NumberToken.mark_notMem_text.mpr
      (shown.exponent_eq_none_iff.mpr ⟨by omega, by omega⟩)
    rw [text, ← same, onLiteral, if_neg (by omega)] at unmarked
    exact unmarked (by cases decimal.negative <;> simp [signed, scientific])
  · have power : 10 ≤ (decimal.digits.length + decimal.exponent - 1).natAbs ↔
        decimal.places ≤ -9 := by
      have places : decimal.places = decimal.digits.length + decimal.exponent := rfl
      omega
    rw [onLiteral, onBrowser, if_neg (by omega), if_neg (by omega), signed_inj, scientific_eq_iff,
      power]
    omega

end Layout

/-! ## Whole numbers -/

namespace Json.NumberToken

/-- The parts of an integer. -/
def ofInt (whole : Int) : NumberToken :=
  ⟨whole < 0, Numeral.digits whole.natAbs, [], none⟩

variable {token : NumberToken} {whole : Int}

theorem text_ofInt (whole : Int) : (ofInt whole).text = Numeral.ofInt whole := by
  rw [ofInt_eq_signed, text, ofInt]
  simp [fractionText, exponentText, Numeral.ofNat]

theorem isValid_ofInt (whole : Int) : (ofInt whole).IsValid :=
  ⟨unpadded_digits whole.natAbs, nofun⟩

theorem toRat_plain (negative : Bool) (digits : List Digit) :
    toRat ⟨negative, digits, [], none⟩ = Decimal.rational negative (value digits) 0 := by
  simp [toRat, power]

theorem toRat_ofInt (whole : Int) : (ofInt whole).toRat = whole := by
  rw [ofInt, toRat_plain, value_digits, Decimal.rational, Nat.cast_natAbs, zpow_zero, mul_one]
  rcases Int.lt_or_le whole 0 with below | above
  · simp [below, abs_of_neg below]
  · simp [Int.not_lt.mpr above, abs_of_nonneg above]

/-- A number without point and exponent is the integer that it is the value of. -/
theorem IsValid.eq_ofInt (valid : token.IsValid) (noFraction : token.fraction = [])
    (noExponent : token.exponent = none) (nonzero : whole ≠ 0) (same : token.toRat = whole) :
    token = ofInt whole := by
  obtain ⟨negative, digits, fraction, exponent⟩ := token
  cases noFraction
  cases noExponent
  rw [← toRat_ofInt, ofInt, toRat_plain, toRat_plain, value_digits] at same
  have magnitude : value digits = whole.natAbs := Decimal.coefficient_eq same
  have sign : negative = decide (whole < 0) := by
    have some : whole.natAbs ≠ 0 := Int.natAbs_ne_zero.mpr nonzero
    rw [magnitude] at same
    rw [Bool.eq_iff_iff, ← Decimal.rational_neg_iff some, same, Decimal.rational_neg_iff some]
  rw [ofInt, ← magnitude, valid.unpadded.digits_value, sign]

end Json.NumberToken

namespace Decimal

variable {decimal : Decimal} {token : NumberToken} {whole : Int}

/-- A decimal of few places whose last digit is no fraction is shown as an integer. -/
theorem ShownAs.plain (shown : decimal.ShownAs token) (nonempty : decimal.digits ≠ [])
    (upward : 0 ≤ decimal.exponent) (fits : decimal.places ≤ 21) :
    token.fraction = [] ∧ token.exponent = none := by
  have places : decimal.places = decimal.digits.length + decimal.exponent := rfl
  have some := List.length_pos_of_ne_nil nonempty
  cases shown with
  | upward => exact ⟨rfl, rfl⟩
  | inside => omega
  | downward => omega
  | scaled => omega

/-- A browser shows a decimal as an integer if the integer is its value and is short. -/
theorem IsNormal.write_eq_ofInt_iff (normal : decimal.IsNormal) (nonzero : whole ≠ 0) :
    Numeral.ofInt whole = Layout.browser.write decimal ↔
      whole.natAbs < 10 ^ 21 ∧ decimal.toRat = whole := by
  obtain ⟨token, shown, text⟩ := exists_shownAs normal.digits_ne_nil
  have valid := shown.isValid normal
  have value := shown.toRat_eq normal
  have short (exact : decimal.toRat = whole) : decimal.places ≤ 21 ↔ whole.natAbs < 10 ^ 21 := by
    rw [← normal.abs_toRat_lt_iff, exact, ← Int.cast_abs, Int.abs_eq_natAbs]
    exact_mod_cast Iff.rfl
  rw [← text, ← NumberToken.text_ofInt]
  constructor
  · intro same
    have exact : decimal.toRat = whole := by
      rw [← value, ← (NumberToken.isValid_ofInt whole).toRat_eq valid same, NumberToken.toRat_ofInt]
    have unmarked := NumberToken.mark_notMem_text.mpr
      (rfl : (NumberToken.ofInt whole).exponent = none)
    rw [same, NumberToken.mark_notMem_text, shown.exponent_eq_none_iff] at unmarked
    exact ⟨(short exact).mp unmarked.2, exact⟩
  · rintro ⟨below, exact⟩
    have integral : decimal.toRat = toRat ⟨whole < 0, Numeral.digits whole.natAbs, 0⟩ := by
      rw [exact, ← NumberToken.toRat_ofInt, NumberToken.ofInt, NumberToken.toRat_plain]
      rfl
    obtain ⟨noFraction, noExponent⟩ := shown.plain normal.digits_ne_nil
      (normal.exponent_le integral) ((short exact).mpr below)
    rw [valid.eq_ofInt noFraction noExponent nonzero (value.trans exact)]

end Decimal

/-! ## All numbers -/

namespace Binary64

variable {negative : Bool} {rank : Fin infinityRank} {whole : Int}

theorem toInt?_zero (negative : Bool) (vanishes : rank.val = 0) :
    (finite negative rank).toInt? = some 0 := by
  have none : units rank = 0 := units_eq_zero.mpr vanishes
  rw [toInt?_finite, Int.zero_mul, ← Int.natAbs_eq_zero, natAbs_signedUnits, none]

theorem units_of_toInt? (integral : (finite negative rank).toInt? = some whole) :
    units rank = one * whole.natAbs := by
  rw [toInt?_finite] at integral
  rw [← natAbs_signedUnits negative, integral, Int.natAbs_mul, Int.natAbs_natCast, Nat.mul_comm]

theorem rational_of_toInt? (integral : (finite negative rank).toInt? = some whole) :
    Decimal.rational negative whole.natAbs 0 = whole := by
  have exact := units_of_toInt? integral
  have positive : (one : Int) ≠ 0 := by exact_mod_cast one_pos.ne'
  rw [toInt?_finite, signedUnits, exact] at integral
  have same : (if negative then -1 else 1 : Int) * whole.natAbs = whole := by
    refine Int.eq_of_mul_eq_mul_right positive ?_
    rw [← integral, Int.natCast_mul]
    split <;> ring
  have sign : (if negative then -1 else 1 : ℚ) = ((if negative then -1 else 1 : Int) : ℚ) := by
    cases negative <;> simp
  rw [Decimal.rational, zpow_zero, mul_one, sign, ← Int.cast_natCast, ← Int.cast_mul, same]

theorem toInt?_ne_none_iff : (finite negative rank).toInt? ≠ none ↔ one ∣ units rank := by
  rw [toInt?, Nat.dvd_iff_mod_eq_zero]
  split
  · exact iff_of_true (Option.some_ne_none _) ‹_›
  · exact iff_of_false (not_not.mpr rfl) ‹_›

end Binary64

namespace Number

open Binary64

variable {negative : Bool} {rank : Fin infinityRank} {whole : Int}

/-- Is the number shown by a browser as it is on a result line? -/
def ShownAlike : Number → Prop
  | int value => value.natAbs < 10 ^ 21
  | float .nan | float (.infinity _) => True
  | float (.finite negative rank) =>
    match (Binary64.finite negative rank).toInt? with
    | some whole =>
      whole.natAbs < 2 ^ 53 ∨ whole.natAbs < 10 ^ 21 ∧ (shortest negative rank).toRat = whole
    | none =>
      10 ^ (-4 : Int) ≤ |(shortest negative rank).toRat| ∨
        |(shortest negative rank).toRat| < 10 ^ (-9 : Int)

theorem letter_notMem_ofInt {point : CodePoint} (letter : point.digit? = none)
    (noSign : point ≠ .scalar '-') (whole : Int) : point ∉ Numeral.ofInt whole := by
  rw [ofInt_eq_signed, signed]
  split
  · exact List.not_mem_cons_of_ne_of_not_mem noSign (notMem_write letter)
  · exact notMem_write letter

theorem ofInt_ne_infinity (whole : Int) (negative : Bool) :
    Numeral.ofInt whole ≠ floatBrowser (.infinity negative) := by
  intro same
  have letter : CodePoint.scalar 'I' ∉ Numeral.ofInt whole :=
    letter_notMem_ofInt rfl (by decide) whole
  rw [same] at letter
  exact letter (by cases negative <;> decide)

theorem ofInt_zero : Numeral.ofInt 0 = "0" := by
  decide +kernel

theorem int_shownAlike_iff (value : Int) :
    Numeral.ofInt value = browser (.int value) ↔ value.natAbs < 10 ^ 21 := by
  rw [browser]
  split
  · rename_i short
    exact iff_of_true rfl short
  · rename_i long
    have nonzero : value ≠ 0 := by
      intro zero
      exact long (zero ▸ by decide)
    refine iff_of_false ?_ long
    split
    · rename_i rounded found
      obtain ⟨number, _, zero⟩ := ofInt?_eq_some found
      cases rounded with
      | nan => cases number
      | infinity negative => exact ofInt_ne_infinity value negative
      | finite negative rank =>
          have some : rank.val ≠ 0 := by simpa [isZero, nonzero] using zero
          rw [floatBrowser, if_neg some, writeFinite,
            (shortest_isNormal negative some).write_eq_ofInt_iff nonzero]
          exact fun shown => long shown.1
    · exact ofInt_ne_infinity value _

theorem whole_shownAlike_iff (nonzero : rank.val ≠ 0)
    (integral : (Binary64.finite negative rank).toInt? = some whole) :
    Numeral.ofInt whole = writeFinite .browser negative rank ↔
      whole.natAbs < 2 ^ 53 ∨ whole.natAbs < 10 ^ 21 ∧ (shortest negative rank).toRat = whole := by
  have normal := shortest_isNormal negative nonzero
  have exact := units_of_toInt? integral
  have some : whole.natAbs ≠ 0 := by
    intro zero
    rw [zero, Nat.mul_zero, units_eq_zero] at exact
    exact nonzero exact
  rw [writeFinite, normal.write_eq_ofInt_iff (Int.natAbs_ne_zero.mp some)]
  constructor
  · exact .inr
  · rintro (small | shown)
    · refine ⟨small.trans (by decide), ?_⟩
      rw [shortest_toRat_of_small negative exact some small, rational_of_toInt? integral]
    · exact shown

theorem broken_shownAlike_iff (broken : (Binary64.finite negative rank).toInt? = none) :
    writeFinite .literal negative rank = writeFinite .browser negative rank ↔
      10 ^ (-4 : Int) ≤ |(shortest negative rank).toRat| ∨
        |(shortest negative rank).toRat| < 10 ^ (-9 : Int) := by
  have nonzero : rank.val ≠ 0 := by
    intro zero
    rw [toInt?_zero negative zero] at broken
    cases broken
  have normal := shortest_isNormal negative nonzero
  have near : ¬ (0 ≤ (shortest negative rank).exponent ∨ 16 < (shortest negative rank).places) :=
    fun far => toInt?_ne_none_iff.mpr
      (one_dvd_units_of_float normal (shortest_float negative nonzero).1 far) broken
  rw [not_or, not_le, not_lt] at near
  rw [writeFinite, writeFinite, Layout.write_eq_iff near.1 near.2 normal.digits_ne_nil,
    normal.le_abs_toRat_iff, normal.abs_toRat_lt_iff]
  rfl

/-- A result line shows an integer as a browser does if it has at most 21 digits; a
whole float if it is less than two to the power of 53, or has at most 21 digits and
is the shortest decimal that is read as it; and any other float if it is not less
than the fourth decimal place, or less than the ninth. -/
theorem resultText_eq_browser_iff (number : Number) :
    number.resultText = number.browser ↔ number.ShownAlike := by
  cases number with
  | int value => exact int_shownAlike_iff value
  | float value =>
      cases value with
      | nan => exact iff_of_true rfl trivial
      | infinity negative => exact iff_of_true rfl trivial
      | finite negative rank =>
          simp only [resultText, browser, floatBrowser, floatLiteral, ShownAlike]
          by_cases zero : rank.val = 0
          · simp only [toInt?_zero negative zero, if_pos zero]
            exact iff_of_true ofInt_zero (.inl (by decide))
          · rw [if_neg zero, if_neg zero]
            cases integral : (Binary64.finite negative rank).toInt? with
            | some whole => exact whole_shownAlike_iff zero integral
            | none => exact broken_shownAlike_iff integral

/-- A float whose literal has an exponent of two digits for want of another one. -/
def hair : Number := .float (.ofDecimal false 1 (-7))

theorem hair_shown_otherwise :
    hair.resultText = "1e-07" ∧ hair.browser = "1e-7" ∧
      ¬ ∀ number : Number, number.isPrintable = true → number.resultText = number.browser := by
  have onLine : hair.resultText = "1e-07" := by decide +kernel
  have onPage : hair.browser = "1e-7" := by decide +kernel
  refine ⟨onLine, onPage, fun alike => ?_⟩
  have same := alike hair rfl
  rw [onLine, onPage] at same
  exact absurd same (by decide)

end Number

end Formulary
