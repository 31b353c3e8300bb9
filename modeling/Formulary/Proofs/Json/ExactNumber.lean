import Formulary.Proofs.Json.Written
import Formulary.Proofs.Number.NormalDecimal

namespace Formulary.Json

open Numeral

/-! # Exact values of numbers

A number in JSON is put together from its parts, which say what value it has
before it is rounded.  The strict reader takes it apart again, so that numbers of
one text have one value.
-/

/-- A sign, the digits before the point, those behind it if there are any, and
the sign and digits of an exponent if there is one. -/
structure NumberToken where
  negative : Bool
  whole : List Digit
  fraction : List Digit
  exponent : Option (Bool × List Digit)

namespace NumberToken

variable (token : NumberToken)

def fractionText : Text :=
  match token.fraction with
  | [] => []
  | digits => .scalar '.' :: write digits

def exponentText : Text :=
  match token.exponent with
  | none => []
  | some (negative, digits) => (if negative then "e-" else "e+" : Text) ++ write digits

def text : Text :=
  signed token.negative (write token.whole ++ (token.fractionText ++ token.exponentText))

def power : Int :=
  match token.exponent with
  | none => 0
  | some (negative, digits) => if negative then -(value digits : Int) else value digits

def toRat : ℚ :=
  Decimal.rational token.negative (value (token.whole ++ token.fraction))
    (token.power - token.fraction.length)

/-- The grammar of numbers in JSON: no zero stands in front of other digits, and
there are digits behind the mark of an exponent. -/
structure IsValid : Prop where
  unpadded : Unpadded token.whole
  counted : ∀ negative digits, token.exponent = some (negative, digits) → digits ≠ []

theorem fractionWritten : FractionWritten token.fraction token.fractionText := by
  obtain ⟨negative, whole, fraction, exponent⟩ := token
  cases fraction with
  | nil => exact .none
  | cons digit digits => exact .some (List.cons_ne_nil digit digits)

variable {token}

theorem IsValid.exponentWritten (valid : token.IsValid) :
    ExponentWritten token.power token.exponentText := by
  obtain ⟨negative, whole, fraction, exponent⟩ := token
  cases exponent with
  | none => exact .none
  | some parts => exact .some parts.1 (valid.counted parts.1 parts.2 rfl)

end NumberToken

theorem Unpadded.digits_value {digits : List Digit} (unpadded : Unpadded digits) :
    Numeral.digits (value digits) = digits := by
  cases unpadded with
  | zero => exact Numeral.digits_zero
  | digits leads => exact Numeral.digits_value leads

/-! ## Taking a number apart -/

/-- The value of the number at the start of a text. -/
def exactValue (text : Text) : ℚ :=
  let (negative, unsigned) := takeSign text
  let (whole, afterWhole) := takeWhole unsigned
  let (fraction, afterFraction) := (takeFraction afterWhole).getD ([], afterWhole)
  let (power, _) := (takeExponent afterFraction).getD (0, afterFraction)
  Decimal.rational negative (value (whole ++ fraction)) (power - fraction.length)

namespace NumberToken

variable {token other : NumberToken}

theorem IsValid.exactValue_text (valid : token.IsValid) : exactValue token.text = token.toRat := by
  have sign := takeSign_signed token.negative valid.unpadded.ne_nil
    (token.fractionText ++ token.exponentText)
  have exponential := valid.exponentWritten
  have stops : NoDigit token.exponentText := by
    simpa using exponential.noDigit endsValue_nil
  have whole := takeWhole_write valid.unpadded (token.fractionWritten.noDigit stops)
  have noFraction : takeFraction token.exponentText = none := by
    simpa using exponential.noFraction endsValue_nil
  have fraction := (takeFraction_written token.fractionWritten stops noFraction).1
  have exponent := (takeExponent_written exponential endsValue_nil).1
  rw [List.append_nil] at exponent
  simp only [exactValue, text, sign, whole, fraction, exponent, toRat]

/-- Numbers of one text have one value. -/
theorem IsValid.toRat_eq (valid : token.IsValid) (otherValid : other.IsValid)
    (same : token.text = other.text) : token.toRat = other.toRat := by
  rw [← valid.exactValue_text, ← otherValid.exactValue_text, same]

theorem mark_notMem_write (digits : List Digit) : CodePoint.scalar 'e' ∉ write digits :=
  notMem_write rfl

/-- A number has the mark of an exponent just if it has an exponent. -/
theorem mark_notMem_text : CodePoint.scalar 'e' ∉ token.text ↔ token.exponent = none := by
  have inFraction : CodePoint.scalar 'e' ∉ token.fractionText := by
    rw [fractionText]
    split <;> simp [mark_notMem_write]
  have inText : CodePoint.scalar 'e' ∈ token.text ↔ CodePoint.scalar 'e' ∈ token.exponentText := by
    rw [text, signed]
    split <;> simp [mark_notMem_write, inFraction]
  rw [inText, exponentText]
  split
  · rename_i none
    simp [none]
  · rename_i negative digits some
    cases negative <;> simp [some, Text.ofString]

/-! ## Reading a number -/

theorem fractionText_of_ne_nil (nonempty : token.fraction ≠ []) :
    token.fractionText = .scalar '.' :: write token.fraction := by
  rw [fractionText]
  split
  · contradiction
  · rfl

theorem fractionText_eq_nil_iff : token.fractionText = [] ↔ token.fraction = [] := by
  rw [fractionText]
  split <;> simp_all

theorem IsValid.written_whole (valid : token.IsValid)
    (short : token.whole.length ≤ Number.digitLimit) (nonzero : value token.whole ≠ 0) :
    ∃ number, NumberWritten (.int number) (signed token.negative (write token.whole)) := by
  have digits := valid.unpadded.digits_value
  obtain ⟨number, magnitude, sign⟩ : ∃ number : Int, number.natAbs = value token.whole ∧
      decide (number < 0) = token.negative := by
    cases token.negative with
    | true => exact ⟨-(value token.whole : Int), by simp, by simp; omega⟩
    | false => exact ⟨value token.whole, by simp, by simp⟩
  have integer : (Numeral.digits number.natAbs).length ≤ Number.digitLimit →
      NumberWritten (.int number) (Numeral.ofInt number) := .integer
  rw [ofInt_eq_signed, magnitude, sign, Numeral.ofNat, digits] at integer
  exact ⟨number, integer short⟩

theorem IsValid.written (valid : token.IsValid) (short : token.whole.length ≤ Number.digitLimit)
    (nonzero : token.toRat ≠ 0) : ∃ number, NumberWritten number token.text := by
  by_cases noInteger : token.fractionText ++ token.exponentText = []
  · have noFraction : token.fraction = [] :=
      fractionText_eq_nil_iff.mp (List.append_eq_nil_iff.mp noInteger).1
    rw [toRat, ne_eq, Decimal.rational_eq_zero_iff, noFraction, List.append_nil] at nonzero
    obtain ⟨number, written⟩ := valid.written_whole short nonzero
    exact ⟨.int number, by rwa [text, noInteger, List.append_nil]⟩
  · exact ⟨_, .float token.negative valid.unpadded token.fractionWritten valid.exponentWritten
      noInteger⟩

/-- Numbers that are not zero are read, even by the strict reader. -/
theorem IsValid.read_text (valid : token.IsValid) (short : token.whole.length ≤ Number.digitLimit)
    (nonzero : token.toRat ≠ 0) : ∃ number, read .strict token.text = .ok (.number number) := by
  obtain ⟨number, written⟩ := valid.written short nonzero
  exact ⟨number, read_written (.number written) (Nat.zero_le _)⟩

end NumberToken

end Formulary.Json
