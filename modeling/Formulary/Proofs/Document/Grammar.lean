import Formulary.Proofs.Document.Checks
import Formulary.Proofs.Outcome

namespace Formulary

/-! # The grammar of documents

Which values are operands and which are documents, said without the checks.
Validation accepts exactly the documents of this grammar, as long as every
number that it looks at is in the range of floats and the nesting stays within
the limit.
-/

/-- A non-empty name, a number that is neither zero nor not-a-number, or an
object with exactly an operator and two operands. -/
inductive IsOperand : Json → Prop where
  | reference {name : Text} (nonempty : name ≠ []) : IsOperand (.string name)
  | literal {value : Number} (notZero : value ≠ .int 0)
      (notFloatZero : ∀ negative, value ≠ .float (.zero negative))
      (notNaN : value ≠ .float .nan) : IsOperand (.number value)
  | expression {node : Fields} {operator : Operator} {operand : Side → Json}
      (members : node.names.Perm Document.expressionNames)
      (named : node.get? Member.operator.name = some (.string [operator.symbol]))
      (present : ∀ side, node.get? side.name = some (operand side))
      (valid : ∀ side, IsOperand (operand side)) : IsOperand (.object node)

theorem IsOperand.isPresent {value : Json} (valid : IsOperand value) : value.isPresent = true := by
  cases valid with
  | reference nonempty => simpa [Json.isPresent] using nonempty
  | literal notZero notFloatZero notNaN =>
      exact Number.isPresent_iff.mpr ⟨notZero, notFloatZero, notNaN⟩
  | expression => rfl

namespace Document

variable {node : Fields} {room : Nat}

theorem passesChecks_of_named {operator : Operator} {operand : Side → Json}
    (members : node.names.Perm expressionNames)
    (named : node.get? Member.operator.name = some (.string [operator.symbol]))
    (present : ∀ side, node.get? side.name = some (operand side))
    (valid : ∀ side, (operand side).isPresent = true) : PassesChecks node where
  complete
    | .operator => isMissing_eq_false_iff.mpr ⟨_, named, by simp [Json.isPresent]⟩
    | .left => isMissing_eq_false_iff.mpr ⟨_, present .left, valid .left⟩
    | .right => isMissing_eq_false_iff.mpr ⟨_, present .right, valid .right⟩
  size := by rw [← Fields.length_names, members.length_eq]; rfl
  named := ⟨operator, named⟩

theorem PassesChecks.members (passes : PassesChecks node) : node.names.Perm expressionNames := by
  rw [Fields.names_perm_iff (by decide)]
  refine ⟨passes.size, fun name listed => ?_⟩
  obtain ⟨member, _, rfl⟩ := List.mem_map.mp listed
  obtain ⟨value, found, _⟩ := isMissing_eq_false_iff.mp (passes.complete member)
  exact ⟨value, found⟩

/-- An object is an operand when its node passes the checks and has operands on
both sides. -/
theorem isOperand_object_iff :
    IsOperand (.object node) ↔
      PassesChecks node ∧ ∀ side : Side, ∃ operand, node.get? side.name = some operand ∧
        IsOperand operand := by
  constructor
  · intro valid
    cases valid with
    | expression members named present valid =>
        exact ⟨passesChecks_of_named members named present fun side => (valid side).isPresent,
          fun side => ⟨_, present side, valid side⟩⟩
  · intro given
    obtain ⟨passes, operands⟩ := given
    obtain ⟨operator, named⟩ := passes.named
    choose operand present valid using operands
    exact .expression passes.members named present valid

theorem isOperand_of_validateSide {side : Side} (passes : PassesChecks node)
    (nested : ∀ {inner}, validateExpression room inner = .ok () → IsOperand (.object inner))
    (accepted : validateSide room side node = .ok ()) :
    ∃ operand, node.get? side.name = some operand ∧ IsOperand operand := by
  obtain ⟨operand, found, present⟩ := passes.operand side
  rw [validateSide, found, Option.getD_some, validateOperand_eq_ok_iff] at accepted
  refine ⟨operand, found, ?_⟩
  rcases accepted with ⟨inner, rfl, inside⟩ | ⟨name, rfl⟩ | ⟨value, rfl⟩
  · exact nested inside
  · exact .reference (by simpa [Json.isPresent] using present)
  · obtain ⟨notZero, notFloatZero, notNaN⟩ := Number.isPresent_iff.mp present
    exact .literal notZero notFloatZero notNaN

theorem isOperand_of_validateExpression (accepted : validateExpression room node = .ok ()) :
    IsOperand (.object node) := by
  induction room generalizing node with
  | zero => simp [validateExpression] at accepted
  | succ room ih =>
      obtain ⟨checked, sides⟩ := validateExpression_succ_eq_ok_iff.mp accepted
      have passes := checkNode_eq_ok checked
      exact isOperand_object_iff.mpr
        ⟨passes, fun side => isOperand_of_validateSide passes ih (sides side)⟩

/-- An expression is accepted when there is room for its nesting and its
numbers can be looked at. -/
theorem validateExpression_of_isOperand (valid : IsOperand (.object node))
    (shallow : (Json.object node).nesting ≤ room)
    (fits : (Json.object node).EveryNode MembersInRange) :
    validateExpression room node = .ok () := by
  induction room generalizing node with
  | zero => simp [Json.nesting] at shallow
  | succ room ih =>
      obtain ⟨passes, operands⟩ := isOperand_object_iff.mp valid
      refine validateExpression_succ_eq_ok_iff.mpr
        ⟨checkNode_of_passes passes fits.here, fun side => ?_⟩
      obtain ⟨operand, found, operandValid⟩ := operands side
      rw [validateSide, found, Option.getD_some, validateOperand_eq_ok_iff]
      cases operandValid with
      | reference => exact .inr (.inl ⟨_, rfl⟩)
      | literal => exact .inr (.inr ⟨_, rfl⟩)
      | expression members named present inside =>
          have inner := Json.nesting_lt found
          exact .inl ⟨_, rfl, ih (.expression members named present inside) (by omega)
            (fits.inside found)⟩

/-- A value with exactly a security and an expression. -/
def IsDocument (document : Json) : Prop :=
  ∃ fields node, document = .object fields ∧ PassesRoot fields node ∧ IsOperand (.object node)

def expression? : Json → Option Json
  | .object fields => Fields.get? expressionName fields
  | _ => none

/-- The operand that a path from the expression of a document leads to. -/
def operandAt? (path : List Side) (document : Json) : Option Json :=
  (expression? document).bind (Json.operandAt? path)

/-- The numbers that validation may look at can be looked at as floats. -/
def InRange (document : Json) : Prop :=
  ∀ expression, expression? document = some expression → expression.EveryNode MembersInRange

/-- Values that stand nowhere in a valid expression: nothing, truth values,
arrays, the empty name and zero. -/
def IsVoid (value : Json) : Prop :=
  value = .null ∨ (∃ truth, value = .bool truth) ∨ (∃ items, value = .array items) ∨
    value = .string [] ∨ value = .number (.int 0) ∨
    ∃ negative, value = .number (.float (.zero negative))

theorem IsVoid.not_isOperand {value : Json} (void : IsVoid value) : ¬ IsOperand value := by
  intro valid
  rcases void with rfl | ⟨_, rfl⟩ | ⟨_, rfl⟩ | rfl | rfl | ⟨negative, rfl⟩ <;> cases valid
  · contradiction
  · contradiction
  · rename_i notFloatZero _
    exact notFloatZero negative rfl

theorem isOperand_operandAt? {value operand : Json} {path : List Side} (valid : IsOperand value)
    (found : value.operandAt? path = some operand) : IsOperand operand := by
  induction path generalizing value with
  | nil =>
      simp only [Json.operandAt?_nil, Option.some.injEq] at found
      exact found ▸ valid
  | cons side path ih =>
      obtain ⟨node, inner, rfl, present, rest⟩ := Json.operandAt?_cons.mp found
      obtain ⟨other, same, inside⟩ := (isOperand_object_iff.mp valid).2 side
      rw [present, Option.some.injEq] at same
      exact ih (same ▸ inside) rest

theorem isDocument_of_validate {document : Json} (accepted : validate document = .ok ()) :
    IsDocument document := by
  obtain ⟨fields, node, same, root, inside⟩ := validate_eq_ok accepted
  exact ⟨fields, node, same, root, isOperand_of_validateExpression inside⟩

theorem not_validate_of_isVoid {document operand : Json} {path : List Side}
    (found : operandAt? path document = some operand) (void : IsVoid operand) :
    validate document ≠ .ok () := by
  intro accepted
  obtain ⟨fields, node, rfl, root, valid⟩ := isDocument_of_validate accepted
  simp only [operandAt?, expression?, root.expression, Option.bind_some] at found
  exact void.not_isOperand (isOperand_operandAt? valid found)

theorem infinity_isOperand (negative : Bool) : IsOperand (.number (.float (.infinity negative))) :=
  .literal (by simp) (by simp [Binary64.zero]) (by simp)

/-- Validation accepts exactly the documents.  In particular no void value gets
through at any depth, while infinities do. -/
theorem validate_eq_ok_iff_isDocument {document : Json}
    (shallow : document.nesting ≤ depthLimit + 1) (fits : InRange document) :
    (validate document = .ok () ↔ IsDocument document) ∧
      (∀ path operand, operandAt? path document = some operand → IsVoid operand →
        validate document ≠ .ok ()) ∧
      ∀ negative, IsOperand (.number (.float (.infinity negative))) := by
  refine ⟨⟨isDocument_of_validate, ?_⟩, fun _ _ => not_validate_of_isVoid, infinity_isOperand⟩
  intro given
  obtain ⟨fields, node, rfl, root, valid⟩ := given
  have inner := Json.nesting_lt root.expression
  rw [validate_of_passesRoot root]
  exact validateExpression_of_isOperand valid (by omega) (fits _ root.expression)

def infiniteDivisor : Json :=
  .object
    [("security", .string "ABC"),
      ("expression", .object
        [("fn", .string "+"),
          ("a", .object
            [("fn", .string "/"), ("a", .string "price"), ("b", .number (.float (.infinity false)))]),
          ("b", .int 2)])]

theorem infiniteDivisor_inRange : InRange infiniteDivisor := by
  intro expression found
  cases found
  refine Json.everyNode_object.mpr ⟨?_, ?_⟩
  · rintro (_ | _ | _) value found <;> cases found
    exact (by decide +kernel : (Binary64.ofInt? 2).isSome = true)
  · rintro (_ | _) operand found <;> cases found
    · refine Json.everyNode_object.mpr ⟨?_, ?_⟩
      · rintro (_ | _ | _) value found <;> cases found
        trivial
      · rintro (_ | _) operand found <;> cases found <;>
          exact Json.everyNode_of_not_object fun _ => Json.noConfusion
    · exact Json.everyNode_of_not_object fun _ => Json.noConfusion

theorem validate_infiniteDivisor : validate infiniteDivisor = .ok () :=
  Except.eq_ok_of_isOk (by decide +kernel)

theorem validate_eq_ok_iff_isDocument_infiniteDivisor :
    infiniteDivisor.nesting ≤ depthLimit + 1 ∧ InRange infiniteDivisor ∧
      (validate infiniteDivisor = .ok () ↔ IsDocument infiniteDivisor) :=
  ⟨by decide +kernel, infiniteDivisor_inRange,
    (validate_eq_ok_iff_isDocument (by decide +kernel) infiniteDivisor_inRange).1⟩

end Document

end Formulary
