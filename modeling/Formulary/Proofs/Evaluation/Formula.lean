import Formulary.Evaluation
import Formulary.Proofs.Document.Grammar

namespace Formulary

/-! # Formulas

A formula is an expression as a tree of operators over literals and
references.  Every valid document has one, and evaluating the document is
looking its security up and computing the formula, where all that the store
contributes is the value of each name.
-/

inductive Formula where
  | literal (value : Number)
  | reference (name : Text)
  | apply (operator : Operator) (left right : Formula)
deriving DecidableEq, Repr

namespace Formula

/-- The number of operators around the innermost operand. -/
def height : Formula → Nat
  | literal _ | reference _ => 0
  | apply _ left right => max left.height right.height + 1

/-- Compute a formula, the left operand before the right one, where `resolve`
gives the values of names. -/
def evaluate (resolve : Text → Except Failure Number) : Formula → Except Failure Number
  | literal value => .ok value
  | reference name => resolve name
  | apply operator left right => do
    let left ← left.evaluate resolve
    let right ← right.evaluate resolve
    (operator.apply left right).mapError fun error => .unexpected (.range error)

def references : Formula → List Text
  | literal _ => []
  | reference name => [name]
  | apply _ left right => left.references ++ right.references

def fold (values : Text → Number) : Formula → Except RangeError Number
  | literal value => .ok value
  | reference name => .ok (values name)
  | apply operator left right => do
    let left ← left.fold values
    let right ← right.fold values
    operator.apply left right

variable {resolve : Text → Except Failure Number} {formula : Formula} {failure : Failure}

theorem evaluate_apply_eq_error {operator : Operator} {left right : Formula}
    (failed : (apply operator left right).evaluate resolve = .error failure) :
    left.evaluate resolve = .error failure ∨ right.evaluate resolve = .error failure ∨
      ∃ error, failure = .unexpected (.range error) := by
  cases leftRun : left.evaluate resolve with
  | error reason =>
      simp only [evaluate, leftRun, bind, Except.bind, Except.error.injEq] at failed
      exact .inl (congrArg Except.error failed)
  | ok leftValue =>
      cases rightRun : right.evaluate resolve with
      | error reason =>
          simp only [evaluate, leftRun, rightRun, bind, Except.bind, Except.error.injEq] at failed
          exact .inr (.inl (congrArg Except.error failed))
      | ok rightValue =>
          simp only [evaluate, leftRun, rightRun, bind, Except.bind] at failed
          cases applied : operator.apply leftValue rightValue with
          | ok value => simp [applied, Except.mapError] at failed
          | error error =>
              simp only [applied, Except.mapError, Except.error.injEq] at failed
              exact .inr (.inr ⟨error, failed.symm⟩)

theorem evaluate_eq_error (failed : formula.evaluate resolve = .error failure) :
    (∃ name ∈ formula.references, resolve name = .error failure) ∨
      ∃ error, failure = .unexpected (.range error) := by
  induction formula with
  | literal value => cases failed
  | reference name => exact .inl ⟨name, by simp [references], failed⟩
  | apply operator left right leftIH rightIH =>
      rcases evaluate_apply_eq_error failed with leftFailed | rightFailed | range
      · rcases leftIH leftFailed with ⟨name, member, missing⟩ | range
        · exact .inl ⟨name, List.mem_append_left _ member, missing⟩
        · exact .inr range
      · rcases rightIH rightFailed with ⟨name, member, missing⟩ | range
        · exact .inl ⟨name, List.mem_append_right _ member, missing⟩
        · exact .inr range
      · exact .inr range

theorem evaluate_eq_ok {value : Number} (computed : formula.evaluate resolve = .ok value) :
    ∀ name ∈ formula.references, ∃ found, resolve name = .ok found := by
  induction formula generalizing value with
  | literal number => simp [references]
  | reference name => simpa [references] using ⟨value, computed⟩
  | apply operator left right leftIH rightIH =>
      simp only [evaluate, Except.bind_eq_ok_iff] at computed
      obtain ⟨leftValue, leftRun, rightValue, rightRun, _⟩ := computed
      intro name member
      rcases List.mem_append.mp member with onLeft | onRight
      · exact leftIH leftRun name onLeft
      · exact rightIH rightRun name onRight

theorem evaluate_eq_fold {values : Text → Number}
    (resolved : ∀ name ∈ formula.references, resolve name = .ok (values name)) :
    formula.evaluate resolve =
      (formula.fold values).mapError fun error => .unexpected (.range error) := by
  induction formula with
  | literal value => rfl
  | reference name => exact resolved name (by simp [references])
  | apply operator left right leftIH rightIH =>
      have leftRun := leftIH fun name member => resolved name (by simp [references, member])
      have rightRun := rightIH fun name member => resolved name (by simp [references, member])
      simp only [evaluate, leftRun, rightRun, fold]
      cases left.fold values with
      | error error => rfl
      | ok leftValue => cases right.fold values <;> rfl

/-- A place in two lists on end is in the first or in the second. -/
theorem place_in_append {names more done rest : List Text} {name : Text}
    (same : names ++ more = done ++ name :: rest) :
    (∃ after, names = done ++ name :: after) ∨
      ∃ before, done = names ++ before ∧ more = before ++ name :: rest := by
  rcases List.append_eq_append_iff.mp same with ⟨before, left, right⟩ | ⟨after, left, right⟩
  · exact .inr ⟨before, left, right⟩
  · rcases List.cons_eq_append_iff.mp right with ⟨rfl, whole⟩ | ⟨tail, rfl, _⟩
    · exact .inr ⟨[], by simpa using left.symm, by simpa using whole⟩
    · exact .inl ⟨tail, left⟩

/-- Away from range errors, the leftmost name that cannot be resolved decides
the failure. -/
theorem evaluate_of_leftmost {done rest : List Text} {name : Text}
    (calm : ∀ error, formula.evaluate resolve ≠ .error (.unexpected (.range error)))
    (names : formula.references = done ++ name :: rest)
    (resolved : ∀ earlier ∈ done, ∃ value, resolve earlier = .ok value)
    (failed : resolve name = .error failure) : formula.evaluate resolve = .error failure := by
  induction formula generalizing done rest with
  | literal value => simp [references] at names
  | reference other =>
      obtain ⟨rfl, same⟩ : done = [] ∧ other = name := by
        cases done <;> simp_all [references]
      rw [evaluate, same, failed]
  | apply operator left right leftIH rightIH =>
      have leftCalm error : left.evaluate resolve ≠ .error (.unexpected (.range error)) :=
        fun leftRun => calm error (by simp only [evaluate, leftRun, bind, Except.bind])
      rcases place_in_append names with ⟨after, onLeft⟩ | ⟨before, rfl, onRight⟩
      · have leftRun := leftIH leftCalm onLeft resolved
        simp only [evaluate, leftRun, bind, Except.bind]
      · -- every name on the left is resolved, and so the left operand has a value
        cases leftRun : left.evaluate resolve with
        | error reason =>
            rcases evaluate_eq_error leftRun with ⟨earlier, member, missing⟩ | ⟨error, rfl⟩
            · obtain ⟨value, found⟩ := resolved earlier (List.mem_append_left before member)
              cases found.symm.trans missing
            · exact (leftCalm error leftRun).elim
        | ok leftValue =>
            have rightCalm error : right.evaluate resolve ≠ .error (.unexpected (.range error)) :=
              fun rightRun =>
                calm error (by simp only [evaluate, leftRun, rightRun, bind, Except.bind])
            have rightRun := rightIH rightCalm onRight fun earlier member =>
              resolved earlier (List.mem_append_right left.references member)
            simp only [evaluate, leftRun, rightRun, bind, Except.bind]

end Formula

mutual

def Json.formula? : Json → Option Formula
  | .number value => some (.literal value)
  | .string name => some (.reference name)
  | .object node => do
    let left ← Json.formulaOf? Member.left.name node
    let right ← Json.formulaOf? Member.right.name node
    let operator ← (Fields.get? Member.operator.name node).bind Document.operator?
    return .apply operator left right
  | _ => none

def Json.formulaOf? (name : Text) : List (Text × Json) → Option Formula
  | [] => none
  | (key, value) :: rest => if key = name then value.formula? else formulaOf? name rest

end

namespace Json

variable {value : Json} {node : Fields} {formula : Formula}

theorem formulaOf?_eq (name : Text) (fields : Fields) :
    formulaOf? name fields = (Fields.get? name fields).bind formula? := by
  induction fields with
  | nil => rfl
  | cons head rest ih =>
      obtain ⟨key, value⟩ := head
      simp only [formulaOf?, Fields.get?]
      split
      · rfl
      · exact ih

theorem formula?_eq_literal {number : Number} :
    value.formula? = some (.literal number) ↔ value = .number number := by
  cases value <;> simp [formula?, bind, Option.bind_eq_some_iff]

theorem formula?_eq_reference {name : Text} :
    value.formula? = some (.reference name) ↔ value = .string name := by
  cases value <;> simp [formula?, bind, Option.bind_eq_some_iff]

theorem formula?_eq_apply {operator : Operator} {left right : Formula} :
    value.formula? = some (.apply operator left right) ↔
      ∃ node onLeft onRight, value = object node ∧
        Fields.get? Member.operator.name node = some (.string [operator.symbol]) ∧
        Fields.get? Side.left.name node = some onLeft ∧ onLeft.formula? = some left ∧
        Fields.get? Side.right.name node = some onRight ∧ onRight.formula? = some right := by
  cases value with
  | object node =>
      simp only [formula?, formulaOf?_eq, bind, Option.bind_eq_some_iff, pure, Option.some.injEq,
        Document.operator?_eq_some_iff, Formula.apply.injEq, object.injEq]
      constructor
      · rintro ⟨_, ⟨onLeft, left, readsLeft⟩, _, ⟨onRight, right, readsRight⟩, _,
          ⟨_, named, rfl⟩, rfl, rfl, rfl⟩
        exact ⟨node, onLeft, onRight, rfl, named, left, readsLeft, right, readsRight⟩
      · rintro ⟨_, onLeft, onRight, rfl, named, left, readsLeft, right, readsRight⟩
        exact ⟨_, ⟨onLeft, left, readsLeft⟩, _, ⟨onRight, right, readsRight⟩, _,
          ⟨_, named, rfl⟩, rfl, rfl, rfl⟩
  | _ => simp [formula?]

end Json

namespace Document

variable {store : Store} {securityId : Id} {node : Fields} {room : Nat} {formula : Formula}

theorem member_of_get? {wanted : Member} {value : Json}
    (found : node.get? wanted.name = some value) : member node wanted = .ok value := by
  simp only [member, found]

theorem evaluateExpression_succ {left right found : Json}
    (onLeft : node.get? Side.left.name = some left)
    (onRight : node.get? Side.right.name = some right)
    (named : node.get? Member.operator.name = some found) :
    evaluateExpression store securityId (room + 1) node = (do
      let left ← evaluateOperand store securityId (evaluateExpression store securityId room) left
      let right ← evaluateOperand store securityId (evaluateExpression store securityId room) right
      applyNamed found left right) := by
  have leftMember : member node .left = .ok left := member_of_get? onLeft
  have rightMember : member node .right = .ok right := member_of_get? onRight
  simp only [evaluateExpression, leftMember, rightMember, member_of_get? named, bind, Except.bind]

@[simp] theorem evaluateOperand_object (nested : Fields → Except Failure Number) :
    evaluateOperand store securityId nested (.object node) = nested node := rfl

theorem applyNamed_symbol (operator : Operator) (left right : Number) :
    applyNamed (.string [operator.symbol]) left right =
      (operator.apply left right).mapError fun error => .unexpected (.range error) := by
  simp only [applyNamed, operator?_eq_some_iff.mpr (rfl : Json.string [operator.symbol] = _)]

/-- A value is evaluated as its formula is computed, if there is room for it. -/
theorem evaluateOperand_of_formula? {value : Json} (reads : value.formula? = some formula)
    (shallow : formula.height ≤ room) :
    evaluateOperand store securityId (evaluateExpression store securityId room) value =
      formula.evaluate (store.valueOf securityId) := by
  induction formula generalizing value room with
  | literal number =>
      obtain rfl := Json.formula?_eq_literal.mp reads
      rfl
  | reference name =>
      obtain rfl := Json.formula?_eq_reference.mp reads
      rfl
  | apply operator left right leftIH rightIH =>
      obtain ⟨node, _, _, rfl, named, onLeft, readsLeft, onRight, readsRight⟩ :=
        Json.formula?_eq_apply.mp reads
      cases room with
      | zero => simp [Formula.height] at shallow
      | succ room =>
          simp only [Formula.height, Nat.add_le_add_iff_right, Nat.max_le] at shallow
          simp only [evaluateOperand_object, evaluateExpression_succ onLeft onRight named,
            leftIH readsLeft shallow.1, rightIH readsRight shallow.2, applyNamed_symbol,
            Formula.evaluate]

/-- An accepted expression has a formula, for which the same room suffices. -/
theorem formula?_of_validateExpression (accepted : validateExpression room node = .ok ()) :
    ∃ formula, (Json.object node).formula? = some formula ∧ formula.height ≤ room := by
  induction room generalizing node with
  | zero => simp [validateExpression] at accepted
  | succ room ih =>
      obtain ⟨checked, sides⟩ := validateExpression_succ_eq_ok_iff.mp accepted
      have passes := checkNode_eq_ok checked
      have operand (side : Side) : ∃ operand formula, node.get? side.name = some operand ∧
          operand.formula? = some formula ∧ formula.height ≤ room := by
        obtain ⟨value, found, _⟩ := passes.operand side
        have inside := sides side
        rw [validateSide, found, Option.getD_some, validateOperand_eq_ok_iff] at inside
        rcases inside with ⟨inner, rfl, nested⟩ | ⟨name, rfl⟩ | ⟨number, rfl⟩
        · obtain ⟨formula, reads, height⟩ := ih nested
          exact ⟨_, formula, found, reads, height⟩
        · exact ⟨_, .reference name, found, rfl, Nat.zero_le _⟩
        · exact ⟨_, .literal number, found, rfl, Nat.zero_le _⟩
      obtain ⟨operator, named⟩ := passes.named
      obtain ⟨left, leftFormula, onLeft, readsLeft, leftHeight⟩ := operand .left
      obtain ⟨right, rightFormula, onRight, readsRight, rightHeight⟩ := operand .right
      refine ⟨.apply operator leftFormula rightFormula, ?_, ?_⟩
      · exact Json.formula?_eq_apply.mpr
          ⟨node, left, right, rfl, named, onLeft, readsLeft, onRight, readsRight⟩
      · simp only [Formula.height]
        omega

def formula? : Json → Option (Text × Formula)
  | .object fields => do
    let symbol ← (Fields.get? securityName fields).bind Json.text?
    let formula ← (Fields.get? expressionName fields).bind Json.formula?
    return (symbol, formula)
  | _ => none

/-- To evaluate a valid document is to look its security up and to compute its
formula. -/
theorem evaluate_of_validate {document : Json} (accepted : validate document = .ok ()) :
    ∃ symbol formula, formula? document = some (symbol, formula) ∧ ∀ store : Store,
      evaluate store document =
        match store.security? symbol with
        | none => .error (.unknownSecurity symbol)
        | some security =>
          (formula.evaluate (store.valueOf security.id)).map fun value => (security, value) := by
  obtain ⟨fields, node, rfl, root, inside⟩ := validate_eq_ok accepted
  obtain ⟨symbol, _, security⟩ := root.security
  obtain ⟨formula, reads, height⟩ := formula?_of_validateExpression inside
  refine ⟨symbol, formula, ?_, fun store => ?_⟩
  · simp only [formula?, security, root.expression, Option.bind_some, Json.text?, reads, bind,
      pure]
  · have computed (security : Security) :
        evaluateExpression store security.id depthLimit node =
          formula.evaluate (store.valueOf security.id) := by
      rw [← evaluateOperand_of_formula? reads height, evaluateOperand_object]
    simp only [evaluate, security, Store.securityNamed, root.expression, computed, bind,
      Except.bind, pure, Except.pure]
    cases store.security? symbol with
    | none => rfl
    | some security => cases formula.evaluate (store.valueOf security.id) <;> rfl

end Document

end Formulary
