import Formulary.Document

namespace Formulary

/-! # Validation

A document is checked from the root inward and from left to right, and the
first violation decides.  A node of an expression is checked for missing
members, then for extra ones, then for its operator, and only then are its
operands checked, the left one with everything inside it before the right one.
-/

/-- Does a value count as present?  Nothing, false, zero, not-a-number and the
empty string do not. -/
def Json.isTruthy : Json → Except RangeError Bool
  | .null => .ok false
  | .bool value => .ok value
  | .number value => value.isTruthy
  | .string value => .ok (value ≠ [])
  | .array _ | .object _ => .ok true

namespace Document

def hasMember (node : Fields) (member : Member) : Except RangeError Bool :=
  match node.get? member.name with
  | some value => value.isTruthy
  | none => .ok false

/-- The members of a list that are not present; each one is looked at. -/
def missingMembers (node : Fields) : List Member → Except RangeError (List Member)
  | [] => .ok []
  | member :: rest => do
    let present ← hasMember node member
    let missing ← missingMembers node rest
    return if present then missing else member :: missing

/-- Report a violation.  One whose wording would show a value nested deeper
than `room` is reported as nested too deeply. -/
def refuse (room : Nat) (violation : Violation) : Except Rejection Unit :=
  if violation.shownNesting ≤ room then .error (.violation violation)
  else .error (.violation .nestedTooDeeply)

def operator? : Json → Option Operator
  | .string text => Operator.ofText? text
  | _ => none

/-- The checks of one node of an expression, its operands left aside. -/
def checkNode (room : Nat) (node : Fields) : Except Rejection Unit := do
  let missing ← (missingMembers node Member.all).mapError Rejection.range
  match missing with
  | member :: _ => refuse room (.missingMember member node)
  | [] =>
    if node.length ≠ Member.all.length then
      refuse room (.extraMember (node.leastExtra? expressionNames) node)
    else
      let found := (node.get? Member.operator.name).getD .null
      if (operator? found).isNone then refuse room (.unknownOperator found)

/-- Check one operand of an expression, where `nested` checks an expression inside it. -/
def validateOperand (nested : Fields → Except Rejection Unit) (room : Nat) (side : Member)
    (operand : Json) : Except Rejection Unit :=
  match operand with
  | .object node => nested node
  | .string _ | .number _ => .ok ()
  | other => refuse room (.badOperand side other)

/-- Check an expression, its operands included, down to a number of levels. -/
def validateExpression (room : Nat) (node : Fields) : Except Rejection Unit :=
  match room with
  | 0 => .error (.violation .nestedTooDeeply)
  | room + 1 => do
    checkNode room node
    validateOperand (validateExpression room) room .left
      ((node.get? Member.left.name).getD .null)
    validateOperand (validateExpression room) room .right
      ((node.get? Member.right.name).getD .null)

def validate : Json → Except Rejection Unit
  | .null => .error .notJson
  | .object fields =>
    match Fields.get? securityName fields with
    | some (.string (_ :: _)) =>
      match Fields.get? expressionName fields with
      | some (.object node) =>
        if fields.length ≠ names.length then
          .error (.violation (.extraField (Fields.leastExtra? names fields)))
        else validateExpression depthLimit node
      | _ => .error (.violation .expression)
    | _ => .error (.violation .security)
  | _ => .error (.violation .security)

end Document

end Formulary
