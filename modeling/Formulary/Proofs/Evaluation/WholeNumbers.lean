import Formulary.Proofs.Evaluation.Context

namespace Formulary

/-! # Whole numbers

Integers stay exact under addition, subtraction and multiplication, and every
float and every division makes a float.  A formula therefore has an integer for
its value exactly if all that it starts from are integers and nothing is divided,
and then it is never out of range, however large the numbers on the way are.
-/

/-- What an operator does to integers; division leaves them. -/
def Operator.whole? : Operator → Option (Int → Int → Int)
  | add => some (· + ·)
  | subtract => some (· - ·)
  | multiply => some (· * ·)
  | divide => none

theorem Operator.whole?_eq_none_iff {operator : Operator} :
    operator.whole? = none ↔ operator = .divide := by
  cases operator <;> simp [whole?]

namespace Number

variable {exact : Int → Int → Int} {rounded : Binary64 → Binary64 → Binary64}
  {left right : Number} {value : Int}

theorem onFloats_ne_int :
    (do
      let left ← left.toFloat
      let right ← right.toFloat
      return float (rounded left right)) ≠ .ok (.int value) := by
  intro same
  obtain ⟨leftFloat, _, rest⟩ := Except.bind_eq_ok_iff.mp same
  obtain ⟨rightFloat, _, made⟩ := Except.bind_eq_ok_iff.mp rest
  cases made

theorem combine_eq_int_iff :
    combine exact rounded left right = .ok (.int value) ↔
      ∃ onLeft onRight, left = .int onLeft ∧ right = .int onRight ∧
        exact onLeft onRight = value := by
  cases left with
  | float leftFloat => exact iff_of_false onFloats_ne_int (by simp)
  | int leftWhole =>
      cases right with
      | float rightFloat => exact iff_of_false onFloats_ne_int (by simp)
      | int rightWhole => simp [combine]

theorem div_ne_int : div left right ≠ .ok (.int value) := by
  cases left with
  | float leftFloat => exact onFloats_ne_int
  | int leftWhole =>
      cases right with
      | float rightFloat => exact onFloats_ne_int
      | int rightWhole =>
          rw [div]
          cases divInt leftWhole rightWhole <;> simp [Except.map]

end Number

/-- An operation gives an integer exactly if it is one on two integers. -/
theorem Operator.apply_eq_int_iff {operator : Operator} {left right : Number} {value : Int} :
    operator.apply left right = .ok (.int value) ↔
      ∃ exact onLeft onRight, operator.whole? = some exact ∧ left = .int onLeft ∧
        right = .int onRight ∧ exact onLeft onRight = value := by
  cases operator with
  | divide => exact iff_of_false Number.div_ne_int (by simp [whole?])
  | _ => simp [apply, whole?, Number.add, Number.sub, Number.mul, Number.combine_eq_int_iff]

namespace Formula

variable {resolve : Text → Except Failure Number} {formula : Formula} {value : Int}

/-- All literals are integers, all names have integers for their values, and
nothing is divided. -/
def IsWhole (resolve : Text → Except Failure Number) : Formula → Prop
  | literal value => ∃ whole : Int, value = .int whole
  | reference name => ∃ whole : Int, resolve name = .ok (.int whole)
  | apply operator left right =>
    operator ≠ .divide ∧ left.IsWhole resolve ∧ right.IsWhole resolve

/-- The value of a formula as it is computed among the integers. -/
inductive Computes (resolve : Text → Except Failure Number) : Formula → Int → Prop where
  | literal (value : Int) : Computes resolve (.literal (.int value)) value
  | reference {name : Text} {value : Int} (resolved : resolve name = .ok (.int value)) :
      Computes resolve (.reference name) value
  | apply {operator : Operator} {exact : Int → Int → Int} {left right : Formula}
      {onLeft onRight : Int} (operation : operator.whole? = some exact)
      (computesLeft : Computes resolve left onLeft)
      (computesRight : Computes resolve right onRight) :
      Computes resolve (.apply operator left right) (exact onLeft onRight)

theorem isWhole_iff : formula.IsWhole resolve ↔ ∃ value, formula.Computes resolve value := by
  constructor
  · intro whole
    induction formula with
    | literal number =>
        obtain ⟨value, rfl⟩ := whole
        exact ⟨value, .literal value⟩
    | reference name =>
        obtain ⟨value, resolved⟩ := whole
        exact ⟨value, .reference resolved⟩
    | apply operator left right leftIH rightIH =>
        obtain ⟨undivided, wholeLeft, wholeRight⟩ := whole
        obtain ⟨exact, operation⟩ :=
          Option.ne_none_iff_exists'.mp (mt Operator.whole?_eq_none_iff.mp undivided)
        obtain ⟨onLeft, computesLeft⟩ := leftIH wholeLeft
        obtain ⟨onRight, computesRight⟩ := rightIH wholeRight
        exact ⟨_, .apply operation computesLeft computesRight⟩
  · intro computed
    obtain ⟨value, computes⟩ := computed
    induction computes with
    | literal value => exact ⟨value, rfl⟩
    | @reference name value resolved => exact ⟨value, resolved⟩
    | @apply operator exact left right onLeft onRight operation _ _ wholeLeft wholeRight =>
        refine ⟨fun divided => ?_, wholeLeft, wholeRight⟩
        rw [Operator.whole?_eq_none_iff.mpr divided] at operation
        cases operation

/-- Evaluation gives an integer exactly where computing among the integers does. -/
theorem evaluate_eq_int_iff :
    formula.evaluate resolve = .ok (.int value) ↔ formula.Computes resolve value := by
  constructor
  · intro evaluated
    induction formula generalizing value with
    | literal number =>
        cases evaluated
        exact .literal value
    | reference name => exact .reference evaluated
    | apply operator left right leftIH rightIH =>
        obtain ⟨leftValue, leftRun, rest⟩ := Except.bind_eq_ok_iff.mp evaluated
        obtain ⟨rightValue, rightRun, applied⟩ := Except.bind_eq_ok_iff.mp rest
        have done : operator.apply leftValue rightValue = .ok (.int value) := by
          cases result : operator.apply leftValue rightValue <;>
            simp_all [Except.mapError]
        obtain ⟨exact, onLeft, onRight, operation, rfl, rfl, rfl⟩ :=
          Operator.apply_eq_int_iff.mp done
        exact .apply operation (leftIH leftRun) (rightIH rightRun)
  · intro computes
    induction computes with
    | literal value => rfl
    | reference resolved => exact resolved
    | @apply operator exact left right onLeft onRight operation _ _ leftRun rightRun =>
        have done : operator.apply (.int onLeft) (.int onRight) =
            .ok (.int (exact onLeft onRight)) :=
          Operator.apply_eq_int_iff.mpr ⟨exact, onLeft, onRight, operation, rfl, rfl, rfl⟩
        simp only [evaluate, leftRun, rightRun, done, bind, Except.bind, Except.mapError]

end Formula

namespace Document

variable {store : Store} {fields node : Fields} {symbol : Text} {security : Security}

/-- An expression of the looser grammar that is made of integers without division
has the integer that it is among the integers, and no other expression has an
integer for its value. -/
theorem execute_whole_iff (named : fields.get? securityName = some (.string symbol))
    (known : store.security? symbol = some security)
    (present : fields.get? expressionName = some (.object node))
    (loose : IsLooseOperand store security.id (.object node))
    (shallow : WithinDepth (.object fields)) :
    ∃ formula, (Json.object node).formula? = some formula ∧
      (formula.IsWhole (store.valueOf security.id) →
        ∃ value, formula.Computes (store.valueOf security.id) value ∧
          store.execute (.object fields) = .ofValue (.int value)) ∧
      ((store.execute (.object fields)).success = true →
        ((∃ value : Int, (store.execute (.object fields)).value = .int value) ↔
          formula.IsWhole (store.valueOf security.id))) := by
  obtain ⟨formula, reads, _⟩ := isLooseOperand_iff.mp loose
  have height := Json.height_le_of_expressionsWithin reads (shallow _ present)
  have evaluated : evaluate store (.object fields) =
      (formula.evaluate (store.valueOf security.id)).map fun value => (security, value) := by
    rw [evaluate_of_known named known present, operandValue,
      evaluateOperand_of_formula? reads height]
  refine ⟨formula, reads, ?_, ?_⟩
  · intro whole
    obtain ⟨value, computes⟩ := Formula.isWhole_iff.mp whole
    rw [Formula.evaluate_eq_int_iff.mpr computes] at evaluated
    exact ⟨value, computes, Store.execute_of_ok evaluated⟩
  · intro success
    rw [Formula.isWhole_iff]
    cases computed : formula.evaluate (store.valueOf security.id) with
    | error failure =>
        rw [computed] at evaluated
        rw [Store.execute_of_error evaluated] at success
        cases success
    | ok number =>
        rw [computed] at evaluated
        rw [Store.execute_of_ok evaluated]
        refine exists_congr fun value => ?_
        rw [← Formula.evaluate_eq_int_iff, computed]
        simp [Result.ofValue]

/-- The square of an integer that still has a float, times the price. -/
def squaredPrice : Fields :=
  [("fn", .string "*"),
    ("a", .object
      [("fn", .string "*"), ("a", .int (Int.pow 10 200)), ("b", .int (Int.pow 10 200))]),
    ("b", .string "price")]

def squaredPriceDocument : Fields :=
  [(securityName, .string "ABC"), (expressionName, .object squaredPrice)]

def squaredPriceFormula : Formula :=
  .apply .multiply
    (.apply .multiply (.literal (.int (Int.pow 10 200))) (.literal (.int (Int.pow 10 200))))
    (.reference "price")

theorem execute_whole_iff_squaredPrice :
    IsLooseOperand pricedOnly.store (.number (.int 1)) (.object squaredPrice) ∧
      WithinDepth (.object squaredPriceDocument) ∧
      squaredPriceFormula.IsWhole (pricedOnly.store.valueOf (.number (.int 1))) ∧
      pricedOnly.store.execute (.object squaredPriceDocument) =
        .ofValue (.int (Int.pow 10 401)) := by
  have reads : (Json.object squaredPrice).formula? = some squaredPriceFormula := by
    decide +kernel
  have loose : IsLooseOperand pricedOnly.store (.number (.int 1)) (.object squaredPrice) := by
    refine isLooseOperand_iff.mpr ⟨squaredPriceFormula, reads, fun name member => ?_⟩
    obtain rfl : name = "price" := by
      simpa [squaredPriceFormula, Formula.references] using member
    exact Store.resolves_iff.mpr ⟨_, valueOf_price⟩
  have shallow : WithinDepth (.object squaredPriceDocument) :=
    withinDepth_of_nesting (by decide +kernel)
  have whole : squaredPriceFormula.IsWhole (pricedOnly.store.valueOf (.number (.int 1))) :=
    ⟨by decide, ⟨by decide, ⟨_, rfl⟩, ⟨_, rfl⟩⟩, ⟨_, valueOf_price⟩⟩
  obtain ⟨formula, found, computed, _⟩ :=
    execute_whole_iff rfl security?_pricedOnly rfl loose shallow
  cases reads.symm.trans found
  obtain ⟨value, computes, executed⟩ := computed whole
  have product : squaredPriceFormula.evaluate (pricedOnly.store.valueOf (.number (.int 1))) =
      .ok (.int (Int.pow 10 401)) := by
    simp only [squaredPriceFormula, Formula.evaluate, valueOf_price, Except.ok_bind]
    decide +kernel
  cases (Formula.evaluate_eq_int_iff.mpr computes).symm.trans product
  exact ⟨loose, shallow, whole, executed⟩

end Document

end Formulary
