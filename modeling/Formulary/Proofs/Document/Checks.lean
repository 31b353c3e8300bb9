import Formulary.Document.Validation
import Formulary.Proofs.Document.Paths

namespace Formulary

/-! # The checks of validation

What each check of a node of an expression decides.  The test for presence is
made on floats and so fails for an integer beyond their range; away from these
it is a plain test, and a node is refused for the first member that fails it.
-/

def Number.InRange : Number → Prop
  | .int value => (Binary64.ofInt? value).isSome
  | .float _ => True

/-- Neither zero nor not-a-number. -/
def Number.isPresent : Number → Bool
  | .int value => value ≠ 0
  | .float value => !value.isZero && !value.isNaN

def Json.isPresent : Json → Bool
  | .null => false
  | .bool value => value
  | .number value => value.isPresent
  | .string value => value ≠ []
  | .array _ | .object _ => true

theorem Binary64.isZero_iff {value : Binary64} :
    value.isZero = true ↔ ∃ negative, value = zero negative := by
  cases value with
  | nan => simp [isZero, zero]
  | infinity negative => simp [isZero, zero]
  | finite negative rank => simp [isZero, zero, Fin.ext_iff]

theorem Number.isPresent_iff {value : Number} :
    value.isPresent = true ↔
      value ≠ .int 0 ∧ (∀ negative, value ≠ .float (.zero negative)) ∧ value ≠ .float .nan := by
  cases value with
  | int value => simp [isPresent]
  | float value =>
      have zero := @Binary64.isZero_iff value
      have nan : value.isNaN = true ↔ value = .nan := by cases value <;> simp [Binary64.isNaN]
      simp only [isPresent, Bool.and_eq_true, Bool.not_eq_true', ← Bool.not_eq_true, zero, nan]
      simp

theorem Number.isTruthy_eq_ok {value : Number} {present : Bool}
    (tested : value.isTruthy = .ok present) : present = value.isPresent := by
  cases value with
  | int value =>
      simp only [isTruthy] at tested
      by_cases zero : value = 0
      · rw [if_pos zero] at tested
        cases tested
        simp only [isPresent, zero, ne_eq, not_true_eq_false, decide_false]
      · rw [if_neg zero] at tested
        cases rounded : floatOfInt value with
        | error reason => rw [rounded] at tested; cases tested
        | ok float =>
            rw [rounded] at tested
            cases tested
            simp only [isPresent, zero, ne_eq, not_false_eq_true, decide_true]
  | float value =>
      simp only [isTruthy, Except.ok.injEq] at tested
      exact tested.symm

theorem Number.isTruthy_exists {value : Number} (fits : value.InRange) :
    ∃ present, value.isTruthy = .ok present := by
  cases value with
  | int value =>
      simp only [InRange, Option.isSome_iff_exists] at fits
      obtain ⟨rounded, found⟩ := fits
      have converted : floatOfInt value = .ok rounded := by
        unfold floatOfInt
        rw [found]
      by_cases zero : value = 0
      · exact ⟨false, by simp only [isTruthy, if_pos zero]⟩
      · exact ⟨true, by simp only [isTruthy, if_neg zero, converted, Except.map]⟩
  | float value => exact ⟨_, rfl⟩

theorem Json.isTruthy_eq_ok {value : Json} {present : Bool}
    (tested : value.isTruthy = .ok present) : present = value.isPresent := by
  cases value with
  | number value => exact Number.isTruthy_eq_ok tested
  | _ =>
      simp only [isTruthy, Except.ok.injEq] at tested
      simp [← tested, isPresent]

namespace Document

variable {node : Fields} {room : Nat}

/-- The numbers among the three members of a node can be looked at as floats. -/
def MembersInRange (node : Fields) : Prop :=
  ∀ (member : Member) value, node.get? member.name = some (.number value) → value.InRange

/-- A member that is absent, or whose value does not count as present. -/
def isMissing (node : Fields) (member : Member) : Bool :=
  !(node.get? member.name).any Json.isPresent

theorem isMissing_eq_false_iff {member : Member} :
    isMissing node member = false ↔
      ∃ value, node.get? member.name = some value ∧ value.isPresent = true := by
  cases found : node.get? member.name <;> simp [isMissing, found]

theorem hasMember_eq_ok {member : Member} {present : Bool}
    (tested : hasMember node member = .ok present) : isMissing node member = !present := by
  cases found : node.get? member.name with
  | none =>
      simp only [hasMember, found, Except.ok.injEq] at tested
      simp [← tested, isMissing, found]
  | some value =>
      simp only [hasMember, found] at tested
      simp [Json.isTruthy_eq_ok tested, isMissing, found]

theorem hasMember_exists (fits : MembersInRange node) (member : Member) :
    ∃ present, hasMember node member = .ok present := by
  cases found : node.get? member.name with
  | none => exact ⟨false, by simp only [hasMember, found]⟩
  | some value =>
      simp only [hasMember, found]
      cases value with
      | number value => exact Number.isTruthy_exists (fits member value found)
      | _ => exact ⟨_, rfl⟩

theorem missingMembers_eq_ok {members missing : List Member}
    (tested : missingMembers node members = .ok missing) :
    missing = members.filter (isMissing node) := by
  induction members generalizing missing with
  | nil =>
      simp only [missingMembers, Except.ok.injEq] at tested
      simp [← tested]
  | cons member rest ih =>
      cases first : hasMember node member with
      | error reason => simp [missingMembers, first, bind, Except.bind] at tested
      | ok present =>
          cases others : missingMembers node rest with
          | error reason => simp [missingMembers, first, others, bind, Except.bind] at tested
          | ok later =>
              simp only [missingMembers, first, others, bind, Except.bind, pure, Except.pure,
                Except.ok.injEq] at tested
              rw [← tested, ih others, List.filter_cons, hasMember_eq_ok first]
              cases present <;> rfl

theorem missingMembers_exists (fits : MembersInRange node) (members : List Member) :
    ∃ missing, missingMembers node members = .ok missing := by
  induction members with
  | nil => exact ⟨[], rfl⟩
  | cons member rest ih =>
      obtain ⟨present, first⟩ := hasMember_exists fits member
      obtain ⟨missing, others⟩ := ih
      simp only [missingMembers, first, others, bind, Except.bind]
      exact ⟨_, rfl⟩

theorem Operator.ofText?_eq_some_iff {text : Text} {operator : Operator} :
    Operator.ofText? text = some operator ↔ text = [operator.symbol] := by
  constructor
  · intro found
    simpa using List.find?_some found
  · intro same
    subst same
    cases operator <;> rfl

theorem operator?_eq_some_iff {found : Json} {operator : Operator} :
    operator? found = some operator ↔ found = .string [operator.symbol] := by
  cases found <;> simp [operator?, Operator.ofText?_eq_some_iff]

theorem refuse_ne_ok (violation : Violation) : refuse room violation ≠ .ok () := by
  unfold refuse
  split <;> simp

theorem refuse_of_shown {violation : Violation} (shown : violation.shownNesting ≤ room) :
    refuse room violation = .error (.violation violation) := by
  simp [refuse, shown]

/-- The three checks of a node that leave its operands aside. -/
structure PassesChecks (node : Fields) : Prop where
  complete : ∀ member, isMissing node member = false
  size : node.length = Member.all.length
  named : ∃ operator : Operator, node.get? Member.operator.name = some (.string [operator.symbol])

theorem PassesChecks.operand {node : Fields} (passes : PassesChecks node) (side : Side) :
    ∃ value, node.get? side.name = some value ∧ value.isPresent = true :=
  isMissing_eq_false_iff.mp (passes.complete side.member)

theorem mem_all (member : Member) : member ∈ Member.all := by
  cases member <;> decide

theorem complete_of_find? (found : Member.all.find? (isMissing node) = none) (member : Member) :
    isMissing node member = false := by
  have present := List.find?_eq_none.mp found member (mem_all member)
  simpa using present

theorem checkNode_of_tested {missing : List Member}
    (tested : missingMembers node Member.all = .ok missing) :
    checkNode room node =
      match Member.all.find? (isMissing node) with
      | some member => refuse room (.missingMember member node)
      | none =>
        if node.length ≠ Member.all.length then
          refuse room (.extraMember (node.leastExtra? expressionNames) node)
        else if (operator? ((node.get? Member.operator.name).getD .null)).isNone then
          refuse room (.unknownOperator ((node.get? Member.operator.name).getD .null))
        else .ok () := by
  have first : Member.all.find? (isMissing node) = missing.head? := by
    rw [missingMembers_eq_ok tested, List.head?_filter]
  rw [first]
  simp only [checkNode, tested, Except.mapError, bind, Except.bind]
  cases missing <;> rfl

theorem checkNode_eq_ok (passed : checkNode room node = .ok ()) : PassesChecks node := by
  cases tested : missingMembers node Member.all with
  | error reason => simp [checkNode, tested, Except.mapError, bind, Except.bind] at passed
  | ok missing =>
      rw [checkNode_of_tested tested] at passed
      cases found : Member.all.find? (isMissing node) with
      | some member => exact absurd (by simpa [found] using passed) (refuse_ne_ok _)
      | none =>
          simp only [found] at passed
          split at passed
          · exact absurd passed (refuse_ne_ok _)
          · rename_i size
            split at passed
            · exact absurd passed (refuse_ne_ok _)
            · rename_i known
              have complete := complete_of_find? found
              obtain ⟨value, present, _⟩ := isMissing_eq_false_iff.mp (complete .operator)
              rw [present, Option.getD_some, Option.isNone_iff_eq_none, ← ne_eq,
                Option.ne_none_iff_exists'] at known
              obtain ⟨operator, named⟩ := known
              exact ⟨complete, by simpa using size, operator,
                by rw [present, operator?_eq_some_iff.mp named]⟩

theorem checkNode_of_passes (passes : PassesChecks node) (fits : MembersInRange node) :
    checkNode room node = .ok () := by
  obtain ⟨missing, tested⟩ := missingMembers_exists fits Member.all
  have none : Member.all.find? (isMissing node) = none :=
    List.find?_eq_none.mpr fun member _ => by simp [passes.complete member]
  obtain ⟨operator, named⟩ := passes.named
  have known : operator? (.string [operator.symbol]) = some operator := operator?_eq_some_iff.mpr rfl
  simp [checkNode_of_tested tested, none, passes.size, named, known]

theorem validateOperand_eq_ok_iff {nested : Fields → Except Rejection Unit} {side : Member}
    {operand : Json} :
    validateOperand nested room side operand = .ok () ↔
      (∃ inner, operand = .object inner ∧ nested inner = .ok ()) ∨
        (∃ name, operand = .string name) ∨ ∃ value, operand = .number value := by
  cases operand <;> simp [validateOperand, refuse_ne_ok]

def validateSide (room : Nat) (side : Side) (node : Fields) : Except Rejection Unit :=
  validateOperand (validateExpression room) room side.member ((node.get? side.name).getD .null)

theorem validateExpression_succ :
    validateExpression (room + 1) node = (do
      checkNode room node
      validateSide room .left node
      validateSide room .right node) := rfl

theorem validateExpression_succ_eq_ok_iff :
    validateExpression (room + 1) node = .ok () ↔
      checkNode room node = .ok () ∧ ∀ side, validateSide room side node = .ok () := by
  rw [validateExpression_succ]
  cases checkNode room node with
  | error reason => simp [bind, Except.bind]
  | ok _ =>
      cases left : validateSide room .left node with
      | error reason =>
          simp only [bind, Except.bind, reduceCtorEq, false_iff, not_and, not_forall]
          exact fun _ => ⟨.left, by simp [left]⟩
      | ok _ =>
          simp only [bind, Except.bind, true_and]
          constructor
          · rintro right (_ | _)
            · exact left
            · exact right
          · exact fun sides => sides .right

/-- The checks of a document that leave the inside of its expression aside. -/
structure PassesRoot (fields node : Fields) : Prop where
  members : fields.names.Perm names
  security : ∃ symbol, symbol ≠ [] ∧ fields.get? securityName = some (.string symbol)
  expression : fields.get? expressionName = some (.object node)

theorem validate_of_passesRoot {fields : Fields} (root : PassesRoot fields node) :
    validate (.object fields) = validateExpression depthLimit node := by
  obtain ⟨symbol, nonempty, security⟩ := root.security
  have size : fields.length = names.length := by
    rw [← Fields.length_names, root.members.length_eq]
  obtain ⟨point, rest, rfl⟩ := List.exists_cons_of_ne_nil nonempty
  simp only [validate, security, root.expression, size, ne_eq, not_true_eq_false, if_false]

theorem passesRoot_of_size {fields : Fields}
    (security : ∃ symbol, symbol ≠ [] ∧ fields.get? securityName = some (.string symbol))
    (expression : fields.get? expressionName = some (.object node))
    (size : fields.length = names.length) : PassesRoot fields node := by
  refine ⟨?_, security, expression⟩
  rw [Fields.names_perm_iff (by decide)]
  refine ⟨size, fun name member => ?_⟩
  obtain ⟨symbol, _, present⟩ := security
  rcases List.mem_pair.mp member with rfl | rfl
  · exact ⟨_, present⟩
  · exact ⟨_, expression⟩

/-- The document passes the checks of its root, whatever its expression is. -/
def HasSoundRoot (document : Json) : Prop :=
  ∃ fields node, document = .object fields ∧ PassesRoot fields node

/-- What the checks of the root make of a document: the expression is only looked
at behind a sound root, and all violations that are found before lie in the root. -/
theorem validate_cases (document : Json) :
    (document = .null ∧ validate document = .error .notJson) ∨ HasSoundRoot document ∨
      ∃ violation, validate document = .error (.violation violation) ∧
        violation.location = "root" := by
  cases document with
  | null => exact .inl ⟨rfl, rfl⟩
  | object fields =>
      refine .inr ?_
      simp only [validate]
      split
      · rename_i point rest security
        split
        · rename_i node expression
          split
          · exact .inr ⟨_, rfl, rfl⟩
          · rename_i size
            exact .inl ⟨fields, node, rfl,
              passesRoot_of_size ⟨_, by simp, security⟩ expression (by simpa using size)⟩
        · exact .inr ⟨.expression, rfl, rfl⟩
      · exact .inr ⟨.security, rfl, rfl⟩
  | _ => exact .inr (.inr ⟨.security, rfl, rfl⟩)

theorem validate_eq_ok {document : Json} (accepted : validate document = .ok ()) :
    ∃ fields node, document = .object fields ∧ PassesRoot fields node ∧
      validateExpression depthLimit node = .ok () := by
  rcases validate_cases document with ⟨_, failed⟩ | ⟨fields, node, rfl, root⟩ | ⟨_, failed, _⟩
  · cases failed.symm.trans accepted
  · exact ⟨fields, node, rfl, root, (validate_of_passesRoot root).symm.trans accepted⟩
  · cases failed.symm.trans accepted

end Document

end Formulary
