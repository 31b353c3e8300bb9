import Formulary.Proofs.Evaluation.Context
import Formulary.Proofs.Number.Range

namespace Formulary

/-! # Division by zero

A zero divisor is no failure: the quotient is not a number or an infinity.  What
can fail is the dividend, which is looked at as a float even then, so that an
integer beyond the range of floats is an error of range by every zero.
-/

namespace Binary64

/-- Zero and not-a-number by zero are not a number; all else is an infinity of
the product of the signs. -/
theorem div_of_isZero {left divisor : Binary64} (zero : divisor.isZero = true) :
    left.div divisor =
      if left.isZero || left.isNaN then .nan
      else .infinity (left.isNegative != divisor.isNegative) := by
  cases divisor with
  | nan => cases zero
  | infinity negative => cases zero
  | finite negative rank =>
      have none : rank.val = 0 := of_decide_eq_true zero
      cases left with
      | nan => rfl
      | infinity sign => rfl
      | finite sign leftRank => simp [div, none, isZero, isNaN, isNegative]

end Binary64

namespace Number

/-- Zero of either kind and of either sign. -/
def isZero : Number → Bool
  | int value => value = 0
  | float value => value.isZero

def isNaN : Number → Bool
  | int _ => false
  | float value => value.isNaN

/-- Does the number carry a minus sign?  The zero among the integers has none. -/
def isNegative : Number → Bool
  | int value => value < 0
  | float value => value.isNegative

/-- What any number by any zero should come to. -/
def overZero (left divisor : Number) : Binary64 :=
  if left.isZero || left.isNaN then .nan
  else .infinity (left.isNegative != divisor.isNegative)

variable {number left divisor : Number} {value : Binary64}

/-- A number and its float agree on what a division by zero looks at. -/
theorem toFloat_eq_ok (found : number.toFloat = .ok value) :
    value.isNaN = number.isNaN ∧ value.isNegative = number.isNegative ∧
      value.isZero = number.isZero := by
  cases number with
  | float own =>
      cases found
      exact ⟨rfl, rfl, rfl⟩
  | int whole =>
      exact Binary64.ofInt?_eq_some (floatOfInt_eq_ok_iff.mp found)

theorem hasFloat_of_isZero (zero : number.isZero = true) : number.hasFloat = true := by
  cases number with
  | float value => rfl
  | int whole =>
      have none : whole = 0 := of_decide_eq_true zero
      subst none
      decide +kernel

theorem div_of_floats {dividend : Binary64} (onLeft : left.toFloat = .ok dividend)
    (onRight : divisor.toFloat = .ok value) (zero : divisor.isZero = true) :
    dividend.div value = left.overZero divisor := by
  obtain ⟨leftNaN, leftSign, leftZero⟩ := toFloat_eq_ok onLeft
  obtain ⟨_, divisorSign, divisorZero⟩ := toFloat_eq_ok onRight
  rw [Binary64.div_of_isZero (divisorZero.trans zero), leftNaN, leftSign, leftZero, divisorSign,
    overZero]

theorem divInt_zero (whole : Int) :
    divInt whole 0 = (floatOfInt whole).map fun _ => (int whole).overZero (int 0) := by
  by_cases none : whole = 0
  · subst none
    decide +kernel
  · simp [divInt, none, overZero, isZero, isNaN, isNegative]

/-- Whichever kinds the dividend and the zero have, the dividend alone decides
whether there is a quotient. -/
theorem div_of_isZero (zero : divisor.isZero = true) :
    div left divisor = left.toFloat.map fun _ => float (left.overZero divisor) := by
  obtain ⟨value, onRight⟩ := toFloat_of_hasFloat (hasFloat_of_isZero zero)
  have rounded : (do
      let dividend ← left.toFloat
      let divisor ← divisor.toFloat
      return float (dividend.div divisor)) =
        left.toFloat.map fun _ => float (left.overZero divisor) := by
    rw [onRight]
    cases onLeft : left.toFloat with
    | error error => rfl
    | ok dividend =>
        simp only [bind, Except.bind, pure, Except.pure, Except.map,
          div_of_floats onLeft onRight zero]
  cases left with
  | float dividend => exact rounded
  | int whole =>
      cases divisor with
      | float value => exact rounded
      | int other =>
          have none : other = 0 := of_decide_eq_true zero
          subst none
          rw [div, divInt_zero, toFloat]
          cases floatOfInt whole <;> rfl

end Number

namespace Document

variable {left divisor : Number}

/-- Dividing by any zero gives the float that it should, in a document as by
itself, unless the dividend is an integer beyond the range of floats; then it is
always an error. -/
theorem divide_by_zero (left : Number) (zero : divisor.isZero = true) :
    (left.hasFloat = true →
      Operator.divide.apply left divisor = .ok (.float (left.overZero divisor))) ∧
    (left.hasFloat = false → Operator.divide.apply left divisor = .error .conversion) ∧
    ∀ (store : Store) (securityId : Id) (room : Nat) (node : Fields) (onLeft onRight : Json),
      node.get? Member.operator.name = some (.string [Operator.divide.symbol]) →
      node.get? Side.left.name = some onLeft → node.get? Side.right.name = some onRight →
      evaluateOperand store securityId (evaluateExpression store securityId room) onLeft =
        .ok left →
      evaluateOperand store securityId (evaluateExpression store securityId room) onRight =
        .ok divisor →
      evaluateExpression store securityId (room + 1) node =
        if left.hasFloat then .ok (.float (left.overZero divisor))
        else .error (.unexpected (.range .conversion)) := by
  have quotient : Number.div left divisor = _ := Number.div_of_isZero zero
  have fitting (fits : left.hasFloat = true) :
      Operator.divide.apply left divisor = .ok (.float (left.overZero divisor)) := by
    obtain ⟨value, found⟩ := Number.toFloat_of_hasFloat fits
    rw [Operator.apply, quotient, found]
    rfl
  have failing (beyond : left.hasFloat = false) :
      Operator.divide.apply left divisor = .error .conversion := by
    rw [Operator.apply, quotient, Number.toFloat_of_not_hasFloat beyond]
    rfl
  refine ⟨fitting, failing, ?_⟩
  intro store securityId room node onLeft onRight named leftPresent rightPresent leftRun rightRun
  simp only [evaluateExpression_succ leftPresent rightPresent named, leftRun, rightRun,
    applyNamed_symbol, bind, Except.bind]
  cases fits : left.hasFloat with
  | true =>
      rw [fitting fits]
      rfl
  | false =>
      rw [failing fits]
      rfl

theorem divide_by_zero_negativeZero :
    (Number.float (.zero true)).isZero = true ∧ (Number.int (-3)).hasFloat = true ∧
      Operator.divide.apply (.int (-3)) (.float (.zero true)) = .ok (.float (.infinity false)) :=
  ⟨rfl, by decide +kernel,
    (divide_by_zero (.int (-3)) (rfl : (Number.float (.zero true)).isZero = true)).1
      (by decide +kernel)⟩

/-- The square of a number within the range, by a difference that vanishes. -/
def squareByZero : Fields :=
  [("fn", .string "/"),
    ("a", .object
      [("fn", .string "*"), ("a", .int (Int.pow 10 200)), ("b", .int (Int.pow 10 200))]),
    ("b", .object [("fn", .string "-"), ("a", .int 1), ("b", .int 1)])]

def squareDocument : Json :=
  .object [(securityName, .string "ABC"), (expressionName, .object squareByZero)]

/-- The document is valid and its divisor is zero, and yet the division fails. -/
theorem squareByZero_fails :
    Operator.divide.apply (.int (Int.pow 10 400)) (.int 0) = .error .conversion ∧
      validate squareDocument = .ok () ∧
      pricedOnly.store.execute squareDocument = .ofFailure (.unexpected (.range .conversion)) := by
  have failed : operandValue pricedOnly.store (.number (.int 1)) (.object squareByZero) =
      .error (.unexpected (.range .conversion)) := by
    decide +kernel
  refine ⟨by decide +kernel, Except.eq_ok_of_isOk (by decide +kernel), Store.execute_of_error ?_⟩
  rw [squareDocument, evaluate_of_known rfl security?_pricedOnly rfl, failed]
  rfl

end Document

end Formulary
