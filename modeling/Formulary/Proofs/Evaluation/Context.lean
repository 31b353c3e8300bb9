import Formulary.Proofs.Evaluation.Acceptance
import Formulary.Proofs.Evaluation.Answer

namespace Formulary

/-! # Operands in their places

All that an operand contributes to a document is what it evaluates to.  Whatever
stands around it, valid or not, an operand that has a value may be replaced by
the literal of that value, and the result stays the same, be it a value or any
failure.
-/

namespace Json

/-- The value with another operand at the end of a path; where the path leads
nowhere the value stays as it is. -/
def withOperandAt : Json → List Side → Json → Json
  | _, [], replacement => replacement
  | object node, side :: path, replacement =>
    match Fields.get? side.name node with
    | some inner => object (Fields.insert side.name (inner.withOperandAt path replacement) node)
    | none => object node
  | value, _ :: _, _ => value

variable {value operand replacement inner : Json} {node : Fields} {side : Side}
  {path further : List Side} {room : Nat}

@[simp] theorem withOperandAt_nil : value.withOperandAt [] replacement = replacement := by
  cases value <;> rfl

theorem withOperandAt_object_cons (present : Fields.get? side.name node = some inner) :
    (object node).withOperandAt (side :: path) replacement =
      object (Fields.insert side.name (inner.withOperandAt path replacement) node) := by
  simp only [withOperandAt, present]

theorem operandAt?_withOperandAt (found : value.operandAt? path = some operand) :
    (value.withOperandAt path replacement).operandAt? path = some replacement := by
  induction path generalizing value with
  | nil => simp
  | cons side path ih =>
      obtain ⟨node, inner, rfl, present, found⟩ := operandAt?_cons.mp found
      rw [withOperandAt_object_cons present]
      exact operandAt?_object_cons.mpr ⟨_, Fields.get?_insert_self, ih found⟩

theorem operandAt?_append :
    value.operandAt? (path ++ further) = some operand ↔
      ∃ inner, value.operandAt? path = some inner ∧ inner.operandAt? further = some operand := by
  induction path generalizing value with
  | nil => simp
  | cons side path ih =>
      simp only [List.cons_append, operandAt?_cons, ih]
      constructor
      · rintro ⟨node, next, rfl, present, inner, found, rest⟩
        exact ⟨inner, ⟨node, next, rfl, present, found⟩, rest⟩
      · rintro ⟨inner, ⟨node, next, rfl, present, found⟩, rest⟩
        exact ⟨node, next, rfl, present, inner, found, rest⟩

/-- Along a path the expressions that are left are fewer by its length. -/
theorem ExpressionsWithin.operandAt? (within : value.ExpressionsWithin room)
    (found : value.operandAt? path = some operand) :
    operand.ExpressionsWithin (room - path.length) := by
  intro further node rest
  have bound := within (path ++ further) node (operandAt?_append.mpr ⟨operand, found, rest⟩)
  rw [List.length_append] at bound
  omega

theorem ExpressionsWithin.inside (within : (object node).ExpressionsWithin (room + 1))
    (present : Fields.get? side.name node = some operand) : operand.ExpressionsWithin room := by
  have found : (object node).operandAt? [side] = some operand :=
    operandAt?_object_cons.mpr ⟨operand, present, operandAt?_nil operand⟩
  exact within.operandAt? found

end Json

namespace Document

variable {store : Store} {securityId : Id} {nested : Fields → Except Failure Number}
  {node other : Fields} {side : Side} {path : List Side} {operand replacement value : Json}
  {room more : Nat}

def sideValue (store : Store) (securityId : Id) (nested : Fields → Except Failure Number)
    (node : Fields) (side : Side) : Except Failure Number := do
  let operand ← member node side.member
  evaluateOperand store securityId nested operand

theorem evaluateExpression_sides :
    evaluateExpression store securityId (room + 1) node = (do
      let left ← sideValue store securityId (evaluateExpression store securityId room) node .left
      let right ← sideValue store securityId (evaluateExpression store securityId room) node .right
      let found ← member node .operator
      applyNamed found left right) := by
  simp only [evaluateExpression, sideValue, Side.member, bind_assoc]

theorem sideValue_of_get? (present : node.get? side.name = some operand) :
    sideValue store securityId nested node side =
      evaluateOperand store securityId nested operand := by
  simp only [sideValue, member_of_get? present, bind, Except.bind]

theorem sideValue_of_absent (absent : node.get? side.name = none) :
    sideValue store securityId nested node side = .error (.unexpected .malformed) := by
  simp only [sideValue, member, Side.name] at absent ⊢
  simp only [absent, bind, Except.bind]

theorem sideValue_insert (changed : Side) :
    sideValue store securityId nested (node.insert changed.name replacement) side =
      if changed = side then evaluateOperand store securityId nested replacement
      else sideValue store securityId nested node side := by
  split
  · rename_i same
    subst same
    exact sideValue_of_get? Fields.get?_insert_self
  · rename_i different
    have apart : changed.name ≠ side.name := by
      revert different
      cases changed <;> cases side <;> decide
    simp only [sideValue, member, Side.name] at apart ⊢
    rw [Fields.get?_insert_of_ne apart]

theorem member_operator_insert (changed : Side) :
    member (node.insert changed.name replacement) .operator = member node .operator := by
  have apart : changed.name ≠ Member.operator.name := by
    cases changed <;> decide
  rw [member, member, Fields.get?_insert_of_ne apart]

/-- Operands that evaluate alike at the end of a path make values evaluate alike. -/
theorem evaluateOperand_withOperandAt (found : value.operandAt? path = some operand)
    (same : path.length ≤ room →
      evaluateOperand store securityId (evaluateExpression store securityId (room - path.length))
          replacement =
        evaluateOperand store securityId (evaluateExpression store securityId (room - path.length))
          operand) :
    evaluateOperand store securityId (evaluateExpression store securityId room)
        (value.withOperandAt path replacement) =
      evaluateOperand store securityId (evaluateExpression store securityId room) value := by
  induction path generalizing value room with
  | nil =>
      rw [Json.operandAt?_nil, Option.some.injEq] at found
      subst found
      simpa using same (Nat.zero_le _)
  | cons side path ih =>
      obtain ⟨node, inner, rfl, present, found⟩ := Json.operandAt?_cons.mp found
      rw [Json.withOperandAt_object_cons present]
      cases room with
      -- without room both fail before any side is looked at
      | zero => rfl
      | succ room =>
          have inside :
              evaluateOperand store securityId (evaluateExpression store securityId room)
                  (inner.withOperandAt path replacement) =
                evaluateOperand store securityId (evaluateExpression store securityId room) inner :=
            ih found (by simpa using same)
          have sides (other : Side) :
              sideValue store securityId (evaluateExpression store securityId room)
                  (Fields.insert side.name (inner.withOperandAt path replacement) node) other =
                sideValue store securityId (evaluateExpression store securityId room) node other := by
            rw [sideValue_insert]
            split
            · rename_i here
              subst here
              rw [inside, sideValue_of_get? present]
            · rfl
          simp only [evaluateOperand_object, evaluateExpression_sides, sides,
            member_operator_insert]

/-- Once there is room for all expressions inside a value, more room makes no
difference. -/
theorem evaluateOperand_of_within (within : value.ExpressionsWithin room) (enough : room ≤ more) :
    evaluateOperand store securityId (evaluateExpression store securityId more) value =
      evaluateOperand store securityId (evaluateExpression store securityId room) value := by
  induction room generalizing value more with
  | zero =>
      cases value with
      -- the object itself is an expression for which there is no room
      | object node => exact absurd (within [] node (by simp)) (Nat.not_lt_zero _)
      | _ => rfl
  | succ room ih =>
      obtain ⟨more, rfl⟩ : ∃ less, more = less + 1 := ⟨more - 1, by omega⟩
      cases value with
      | object node =>
          have sides (side : Side) :
              sideValue store securityId (evaluateExpression store securityId more) node side =
                sideValue store securityId (evaluateExpression store securityId room) node side := by
            cases present : Fields.get? side.name node with
            | none => rw [sideValue_of_absent present, sideValue_of_absent present]
            | some operand =>
                rw [sideValue_of_get? present, sideValue_of_get? present]
                exact ih (within.inside present) (by omega)
          simp only [evaluateOperand_object, evaluateExpression_sides, sides]
      | _ => rfl

/-- The value of an operand on its own, for a security. -/
def operandValue (store : Store) (securityId : Id) (operand : Json) : Except Failure Number :=
  evaluateOperand store securityId (evaluateExpression store securityId depthLimit) operand

/-- An operand evaluates in its place as it does on its own. -/
theorem evaluateOperand_eq_operandValue (within : value.ExpressionsWithin depthLimit)
    (found : value.operandAt? path = some operand) :
    evaluateOperand store securityId
        (evaluateExpression store securityId (depthLimit - path.length)) operand =
      operandValue store securityId operand :=
  (evaluateOperand_of_within (within.operandAt? found) (Nat.sub_le _ _)).symm

variable {fields : Fields} {symbol : Text} {security : Security} {expression : Json}
  {number : Number}

/-- Evaluating a document whose security is found is evaluating its expression. -/
theorem evaluate_of_known (named : fields.get? securityName = some (.string symbol))
    (known : store.security? symbol = some security)
    (present : fields.get? expressionName = some (.object node)) :
    evaluate store (.object fields) =
      (operandValue store security.id (.object node)).map fun value => (security, value) := by
  have looked : store.securityNamed (.string symbol) = .ok security :=
    Store.securityNamed_eq_ok.mpr ⟨symbol, rfl, known⟩
  simp only [evaluate, named, looked, present, operandValue, evaluateOperand_object, bind,
    Except.bind, pure, Except.pure]
  cases evaluateExpression store security.id depthLimit node <;> rfl

/-- An operand that has a value may be replaced by the literal of the value,
whatever the rest of the document is. -/
theorem execute_withOperandAt (store : Store)
    (named : fields.get? securityName = some (.string symbol))
    (known : store.security? symbol = some security)
    (present : fields.get? expressionName = some expression)
    (found : expression.operandAt? (side :: path) = some operand)
    (shallow : WithinDepth (.object fields))
    (computed : operandValue store security.id operand = .ok number) :
    store.execute (.object
        (fields.insert expressionName
          (expression.withOperandAt (side :: path) (.number number)))) =
      store.execute (.object fields) := by
  obtain ⟨node, inner, rfl, onSide, _⟩ := Json.operandAt?_cons.mp found
  have within := shallow _ present
  have replaced :
      operandValue store security.id
          ((Json.object node).withOperandAt (side :: path) (.number number)) =
        operandValue store security.id (.object node) :=
    evaluateOperand_withOperandAt found fun _ =>
      ((evaluateOperand_eq_operandValue within found).trans computed).symm
  rw [Json.withOperandAt_object_cons onSide] at replaced ⊢
  have before := evaluate_of_known named known present
  have after (changed : Fields) :
      evaluate store (.object (fields.insert expressionName (.object changed))) =
        (operandValue store security.id (.object changed)).map fun value => (security, value) :=
    evaluate_of_known ((Fields.get?_insert_of_ne (by decide)).trans named) known
      Fields.get?_insert_self
  rw [Store.execute, Store.execute, before, after, replaced]

/-- One security, with a price and without a dividend. -/
def pricedOnly : Tables where
  securities := [⟨.number (.int 1), "ABC", []⟩]
  attributes := [⟨.number (.int 7), "price", []⟩, ⟨.number (.int 8), "dividend", []⟩]
  facts := [⟨.number (.int 1), .number (.int 7), .int 10⟩]

theorem security?_pricedOnly :
    pricedOnly.store.security? "ABC" = some ⟨.number (.int 1), "ABC", []⟩ :=
  (pricedOnly.store_security? "ABC").trans rfl

theorem valueOf_price : pricedOnly.store.valueOf (.number (.int 1)) "price" = .ok (.int 10) :=
  Tables.store_valueOf_of_value? (by decide +kernel)

/-- The price divided by negative zero. -/
def quotient : Json :=
  .object [("fn", .string "/"), ("a", .string "price"), ("b", .number (.float (.zero true)))]

theorem operandValue_quotient :
    operandValue pricedOnly.store (.number (.int 1)) quotient = .ok (.float (.infinity true)) := by
  have reads : quotient.formula? =
      some (.apply .divide (.reference "price") (.literal (.float (.zero true)))) := by
    decide +kernel
  have divided : Operator.divide.apply (.int 10) (.float (.zero true)) =
      .ok (.float (.infinity true)) := by decide +kernel
  rw [operandValue, evaluateOperand_of_formula? reads (by decide)]
  simp only [Formula.evaluate, valueOf_price, divided, bind, Except.bind, Except.mapError]

/-- An expression without an operator around one with an unknown operator. -/
def unfinished : Json :=
  .object
    [("a", .string "price"),
      ("b", .object [("b", .string "dividend"), ("a", quotient), ("fn", .string "%")])]

def unfinishedDocument : Fields :=
  [(securityName, .string "ABC"), (expressionName, unfinished)]

theorem execute_withOperandAt_unfinished :
    unfinished.operandAt? [.right, .left] = some quotient ∧
      WithinDepth (.object unfinishedDocument) ∧
      operandValue pricedOnly.store (.number (.int 1)) quotient = .ok (.float (.infinity true)) ∧
      pricedOnly.store.execute (.object
          (unfinishedDocument.insert expressionName
            (unfinished.withOperandAt [.right, .left] (.number (.float (.infinity true)))))) =
        pricedOnly.store.execute (.object unfinishedDocument) := by
  have shallow : WithinDepth (.object unfinishedDocument) :=
    withinDepth_of_nesting (by decide +kernel)
  exact ⟨rfl, shallow, operandValue_quotient,
    execute_withOperandAt pricedOnly.store rfl security?_pricedOnly rfl rfl shallow
      operandValue_quotient⟩

end Document

end Formulary
