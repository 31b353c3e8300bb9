import Formulary.Document.Diagnosis
import Formulary.Evaluation.Operand
import Formulary.Store

namespace Formulary

/-! # Evaluation

A document is evaluated against a store.  Its security is found first; then
the expression is computed from the operands outward, the left operand before
the right one and both before the operator, and the first failure ends it.  A
document that was never validated is evaluated too, as far as it goes.
-/

/-- A failure that no valid document leads to, a number out of range excepted. -/
inductive Mishap where
  /-- A member is missing, or a value is not of the kind that its place requires. -/
  | malformed
  | range (error : RangeError)
  | nestedTooDeeply
deriving DecidableEq, Repr

inductive Failure where
  /-- No security has the symbol that is shown. -/
  | unknownSecurity (shown : Text)
  | unknownAttribute (name : Text)
  /-- The attribute has no value for the security. -/
  | missingFact (name : Text)
  | unexpected (mishap : Mishap)
deriving DecidableEq, Repr

namespace Failure

def code : Failure → Code
  | unknownSecurity _ => .unknownSecurity
  | unknownAttribute _ => .unknownAttribute
  | missingFact _ => .missingFact
  | unexpected _ => .unexpected

def message : Failure → Text
  | unknownSecurity shown => "Security (" ++ shown ++ ") could not be found."
  | unknownAttribute name => "Attribute (" ++ name ++ ") could not be found."
  | missingFact name => "Value not found for " ++ name ++ "."
  | unexpected _ => "Something was wrong executing the DSL."

end Failure

namespace Store

def valueOf (store : Store) (securityId : Id) (name : Text) : Except Failure Number :=
  match store.attribute? name with
  | none => .error (.unknownAttribute name)
  | some found =>
    match store.fact? found.id securityId with
    | none => .error (.missingFact name)
    | some fact => .ok fact.value

/-- The security that a value names.  Only strings name securities; what could
not even be looked up is malformed, and so is a number that cannot be shown. -/
def securityNamed (store : Store) : Json → Except Failure Security
  | .string symbol =>
    match store.security? symbol with
    | some security => .ok security
    | none => .error (.unknownSecurity symbol)
  | .array _ | .object _ => .error (.unexpected .malformed)
  | .null => .error (.unknownSecurity "None")
  | .bool value => .error (.unknownSecurity (if value then "True" else "False"))
  | .number value =>
    if value.isPrintable then .error (.unknownSecurity value.literal)
    else .error (.unexpected .malformed)

end Store

namespace Document

def member (node : Fields) (member : Member) : Except Failure Json :=
  match Fields.get? member.name node with
  | some value => .ok value
  | none => .error (.unexpected .malformed)

def applyNamed (found : Json) (left right : Number) : Except Failure Number :=
  match operator? found with
  | none => .error (.unexpected .malformed)
  | some operator =>
    (operator.apply left right).mapError fun error => .unexpected (.range error)

/-- The value of one operand, where `nested` computes an expression inside it. -/
def evaluateOperand (store : Store) (securityId : Id)
    (nested : Fields → Except Failure Number) (operand : Json) : Except Failure Number :=
  match Operand.ofJson operand with
  | .ok (.literal value) => .ok value
  | .ok (.reference name) => store.valueOf securityId name
  | .ok (.nested node) => nested node
  | .error _ => .error (.unexpected .malformed)

/-- The value of an expression for a security, down to a number of levels. -/
def evaluateExpression (store : Store) (securityId : Id) (room : Nat) (node : Fields) :
    Except Failure Number :=
  match room with
  | 0 => .error (.unexpected .nestedTooDeeply)
  | room + 1 => do
    let left ← member node .left
    let left ← evaluateOperand store securityId (evaluateExpression store securityId room) left
    let right ← member node .right
    let right ← evaluateOperand store securityId (evaluateExpression store securityId room) right
    let found ← member node .operator
    applyNamed found left right

def evaluate (store : Store) (document : Json) : Except Failure (Security × Number) :=
  match document with
  | .object fields =>
    match Fields.get? securityName fields with
    | none => .error (.unexpected .malformed)
    | some named => do
      let security ← store.securityNamed named
      match Fields.get? expressionName fields with
      | some (.object node) =>
        let value ← evaluateExpression store security.id depthLimit node
        return (security, value)
      | _ => .error (.unexpected .malformed)
  | _ => .error (.unexpected .malformed)

end Document

structure Result where
  success : Bool
  value : Number
  message : Text
  code : Text
deriving DecidableEq, Repr

namespace Result

def ofValue (value : Number) : Result :=
  ⟨true, value, [], []⟩

def ofFailure (failure : Failure) : Result :=
  ⟨false, .int 0, failure.message, failure.code.name⟩

def ofDiagnosis (diagnosis : Diagnosis) : Result :=
  ⟨false, .int 0, diagnosis.message, diagnosis.code⟩

/-- The value of a result in JSON; infinities and not-a-number have none. -/
def jsonValue (result : Result) : Json :=
  if result.value.isFinite then .number result.value else .null

def toJson (result : Result) : Json :=
  .object
    [("success", .bool result.success), ("value", result.jsonValue),
      ("message", .string result.message), ("code", .string result.code)]

end Result

namespace Store

def execute (store : Store) (document : Json) : Result :=
  match Document.evaluate store document with
  | .ok (_, value) => .ofValue value
  | .error failure => .ofFailure failure

def run (store : Store) (source : Source) : Except RangeError Result :=
  match Document.load source with
  | .ok document => .ok (store.execute document)
  | .error .notJson => .ok (.ofDiagnosis .invalidJson)
  | .error (.violation violation) => .ok (.ofDiagnosis (.ofViolation violation))
  | .error (.range error) => .error error

end Store

end Formulary
