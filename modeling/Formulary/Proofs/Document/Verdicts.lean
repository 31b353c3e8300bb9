import Formulary.Proofs.Document.Reporting
import Formulary.Proofs.Json.LineRoundTrip
import Formulary.Proofs.Evaluation.Safety

namespace Formulary

/-! # One verdict

The diagnosis of a source, the verdict on it and its result in any store come
from the same checks, and say the same.  Codes of validation are never mixed
with codes of evaluation, and the location tells which checks failed: those of
the root or those of the expression.
-/

/-! ## Where violations are located -/

/-- What the checks of an expression may refuse it for. -/
def Rejection.IsInside : Rejection → Prop
  | .notJson => False
  | .violation found => found.location = Document.expressionName
  | .range _ => True

namespace Document

variable {room : Nat} {node : Fields} {document : Json} {rejection : Rejection}
  {violation : Violation}

theorem refuse_inside (located : violation.location = expressionName)
    (failed : refuse room violation = .error rejection) : rejection.IsInside := by
  unfold refuse at failed
  split at failed <;> cases failed
  · exact located
  · rfl

theorem checkNode_inside (failed : checkNode room node = .error rejection) :
    rejection.IsInside := by
  cases tested : missingMembers node Member.all with
  | error reason =>
      simp only [checkNode, tested, Except.mapError, Except.error_bind, Except.error.injEq] at failed
      exact failed ▸ trivial
  | ok missing =>
      rw [checkNode_of_tested tested] at failed
      split at failed
      · exact refuse_inside rfl failed
      · split at failed
        · exact refuse_inside rfl failed
        · split at failed
          · exact refuse_inside rfl failed
          · cases failed

theorem validateSide_inside {side : Side}
    (nested : ∀ inner, validateExpression room inner = .error rejection →
      rejection.IsInside)
    (failed : validateSide room side node = .error rejection) : rejection.IsInside := by
  unfold validateSide at failed
  cases operand : (node.get? side.name).getD .null with
  | object inner => exact nested inner (by rwa [operand] at failed)
  | string name => rw [operand] at failed; cases failed
  | number value => rw [operand] at failed; cases failed
  | _ =>
      rw [operand] at failed
      exact refuse_inside rfl failed

theorem validateExpression_inside (failed : validateExpression room node = .error rejection) :
    rejection.IsInside := by
  induction room generalizing node with
  | zero =>
      cases failed
      rfl
  | succ room ih =>
      have nested (inner : Fields) (innerFailed : validateExpression room inner = .error rejection) :
          rejection.IsInside := ih innerFailed
      rw [validateExpression_succ] at failed
      cases checked : checkNode room node with
      | error reason =>
          rw [checked, Except.error_bind] at failed
          exact checkNode_inside (checked.trans failed)
      | ok _ =>
          cases left : validateSide room .left node with
          | error reason =>
              rw [checked, left, Except.ok_bind, Except.error_bind] at failed
              exact validateSide_inside nested (left.trans failed)
          | ok _ =>
              rw [checked, left, Except.ok_bind, Except.ok_bind] at failed
              exact validateSide_inside nested failed

/-- The location of a violation tells which checks it was found by. -/
theorem location_of_validate (failed : validate document = .error (.violation violation)) :
    (HasSoundRoot document ∧ violation.location = "expression") ∨
      (¬ HasSoundRoot document ∧ violation.location = "root") := by
  by_cases sound : HasSoundRoot document
  · obtain ⟨fields, node, rfl, root⟩ := sound
    rw [validate_of_passesRoot root] at failed
    exact .inl ⟨⟨fields, node, rfl, root⟩, validateExpression_inside failed⟩
  · rcases validate_cases document with ⟨_, reported⟩ | root | ⟨other, reported, located⟩
    · cases reported.symm.trans failed
    · exact absurd root sound
    · cases reported.symm.trans failed
      exact .inr ⟨sound, located⟩

theorem validate_eq_notJson_iff : validate document = .error .notJson ↔ document = .null := by
  constructor
  · intro failed
    rcases validate_cases document with ⟨isNull, _⟩ | ⟨fields, node, rfl, root⟩ | ⟨_, reported, _⟩
    · exact isNull
    · rw [validate_of_passesRoot root] at failed
      exact (validateExpression_inside failed).elim
    · cases reported.symm.trans failed
  · intro isNull
    subst isNull
    rfl

end Document

/-! ## Codes -/

/-- A result of evaluation has no code or one of the codes of evaluation. -/
theorem Store.code_execute_notMem (store : Store) (document : Json) :
    (store.execute document).code ∉ [Code.invalidJson, .invalidDocument].map Code.name := by
  unfold Store.execute
  cases Document.evaluate store document with
  | ok found =>
      intro listed
      obtain ⟨code, _, same⟩ := List.mem_map.mp listed
      exact Result.ofValue_code_ne found.2 code same.symm
  | error failure =>
      have code : (Result.ofFailure failure).code = failure.code.name := rfl
      simp only [code, List.mem_map, Code.name_injective.eq_iff, exists_eq_right]
      cases failure <;> simp [Failure.code]

namespace Document

/-! ## Sources -/

variable {source : Source} {document : Json}

/-- What is said of a valid source. -/
structure Accepted (source : Source) : Prop where
  diagnosed : diagnose source = .ok none
  judged : verdict source = .ok (true, [])
  runs : ∃ document, parse source = some document ∧
    ∀ store : Store, store.run source = .ok (store.execute document) ∧
      (store.execute document).code ∉ [Code.invalidJson, .invalidDocument].map Code.name

/-- What is said of a source with an error. -/
structure Refused (source : Source) (diagnosis : Diagnosis) : Prop where
  diagnosed : diagnose source = .ok (some diagnosis)
  judged : verdict source = .ok (false, diagnosis.message)
  runs : ∀ store : Store,
    store.run source = .ok ⟨false, .int 0, diagnosis.message, diagnosis.code⟩
  code : diagnosis.code ∈ [Code.invalidJson, .invalidDocument].map Code.name
  /-- A text that is not JSON, and the value null, which counts as none. -/
  unread : diagnosis.code = Code.invalidJson.name ↔
    parse source = none ∨ parse source = some .null
  bare : diagnosis.code = Code.invalidJson.name →
    diagnosis.path = "root" ∧ diagnosis.field = [] ∧ diagnosis.hint = []
  placed : diagnosis.code ≠ Code.invalidJson.name → ∃ document, parse source = some document ∧
    ((HasSoundRoot document ∧ diagnosis.path = "expression") ∨
      (¬ HasSoundRoot document ∧ diagnosis.path = "root"))

theorem load_of_parse (parsed : parse source = some document) :
    load source = (validate document).map fun _ => document := by
  simp only [load, parsed]
  cases validate document <;> rfl

theorem accepted_of_load (loaded : load source = .ok document) : Accepted source := by
  have diagnosed : diagnose source = .ok none := by simp only [diagnose, loaded]
  have parsed : parse source = some document := by
    cases parsed : parse source with
    | none => simp [load, parsed] at loaded
    | some value =>
        rw [load_of_parse parsed] at loaded
        cases validated : validate value with
        | error rejection => rw [validated] at loaded; cases loaded
        | ok _ => rw [validated] at loaded; cases loaded; rfl
  refine ⟨diagnosed, by rw [verdict, diagnosed]; rfl, document, parsed, fun store => ?_⟩
  exact ⟨by simp only [Store.run, loaded], store.code_execute_notMem document⟩

theorem refused_of_notJson (failed : load source = .error .notJson)
    (unread : parse source = none ∨ parse source = some .null) :
    Refused source .invalidJson := by
  have diagnosed : diagnose source = .ok (some .invalidJson) := by simp only [diagnose, failed]
  exact
    { diagnosed := diagnosed
      judged := by rw [verdict, diagnosed]; rfl
      runs := fun store => by simp only [Store.run, failed]; rfl
      code := List.mem_map.mpr ⟨.invalidJson, by decide, rfl⟩
      unread := iff_of_true rfl unread
      bare := fun _ => ⟨rfl, rfl, rfl⟩
      placed := fun other => absurd rfl other }

theorem refused_of_violation {violation : Violation} (parsed : parse source = some document)
    (failed : validate document = .error (.violation violation)) :
    Refused source (.ofViolation violation) := by
  have stopped : load source = .error (.violation violation) := by
    rw [load_of_parse parsed, failed]
    rfl
  have diagnosed : diagnose source = .ok (some (.ofViolation violation)) := by
    simp only [diagnose, stopped]
  have otherCode : (Diagnosis.ofViolation violation).code ≠ Code.invalidJson.name := by
    have different : Code.invalidDocument.name ≠ Code.invalidJson.name :=
      Code.name_injective.ne (by decide)
    exact different
  have read : ¬ (parse source = none ∨ parse source = some .null) := by
    rw [parsed]
    intro unread
    rcases unread with none | isNull
    · cases none
    · cases isNull
      cases failed
  exact
    { diagnosed := diagnosed
      judged := by rw [verdict, diagnosed]; rfl
      runs := fun store => by simp only [Store.run, stopped]; rfl
      code := List.mem_map.mpr ⟨.invalidDocument, by decide, rfl⟩
      unread := iff_of_false otherCode read
      bare := fun same => absurd same otherCode
      placed := fun _ => ⟨document, parsed, location_of_validate failed⟩ }

/-- Diagnosis, verdict and results agree on every source in which no number is
beyond the range of floats: it is valid for all of them, and every store computes
the document, or it is refused by all of them with one code and one message. -/
theorem entries_agree (reportable : ∀ error, load source ≠ .error (.range error)) :
    Accepted source ∨ ∃ diagnosis, Refused source diagnosis := by
  cases parsed : parse source with
  | none => exact .inr ⟨_, refused_of_notJson (by simp only [load, parsed]) (.inl parsed)⟩
  | some document =>
      have loaded := load_of_parse parsed
      cases validated : validate document with
      | ok _ =>
          rw [validated] at loaded
          exact .inl (accepted_of_load loaded)
      | error rejection =>
          rw [validated] at loaded
          cases rejection with
          | notJson =>
              have isNull := validate_eq_notJson_iff.mp validated
              exact .inr ⟨_, refused_of_notJson loaded (.inr (isNull ▸ parsed))⟩
          | violation violation => exact .inr ⟨_, refused_of_violation parsed validated⟩
          | range error => exact absurd loaded (reportable error)

/-- An expression on the right of another, with an operator and an operand that are none. -/
def twofold : Json :=
  let inner : Json := .object [("fn", .string "%"), ("a", .bool true), ("b", .string "rate")]
  .object [("security", .string "ABC"),
    ("expression", .object [("fn", .string "+"), ("a", .string "price"), ("b", inner)])]

theorem isLegible_twofold : twofold.IsLegible := by
  have inner : (Json.object [("fn", .string "%"), ("a", .bool true),
      ("b", .string "rate")]).IsLegible := by
    refine .object (by decide) (by decide) ?_
    simp only [List.forall_mem_cons, List.not_mem_nil, false_imp_iff, implies_true, and_true]
    exact ⟨.string (by decide), .bool true, .string (by decide)⟩
  have outer : (Json.object [("fn", .string "+"), ("a", .string "price"),
      ("b", .object [("fn", .string "%"), ("a", .bool true), ("b", .string "rate")])]).IsLegible := by
    refine .object (by decide) (by decide) ?_
    simp only [List.forall_mem_cons, List.not_mem_nil, false_imp_iff, implies_true, and_true]
    exact ⟨.string (by decide), .string (by decide), inner⟩
  refine .object (by decide) (by decide) ?_
  simp only [List.forall_mem_cons, List.not_mem_nil, false_imp_iff, implies_true, and_true]
  exact ⟨.string (by decide), outer⟩

theorem parse_twofold : parse (.text twofold.line) = some twofold := by
  rw [parse, Json.read_line isLegible_twofold (by decide)]
  rfl

theorem validate_twofold :
    validate twofold = .error (.violation (.unknownOperator (.string "%"))) := rfl

theorem entries_agree_twofold :
    (∀ error, load (.text twofold.line) ≠ .error (.range error)) ∧
      ∃ diagnosis, Refused (.text twofold.line) diagnosis ∧ diagnosis.path = "expression" ∧
        diagnosis.message = "\"fn\" field is not a valid type: %" := by
  have loaded := load_of_parse parse_twofold
  rw [validate_twofold] at loaded
  have diagnosed : diagnose (.text twofold.line) =
      .ok (some (.ofViolation (.unknownOperator (.string "%")))) := by
    rw [diagnose, loaded]
    rfl
  have reportable (error : RangeError) : load (.text twofold.line) ≠ .error (.range error) := by
    rw [loaded]
    nofun
  refine ⟨reportable, ?_⟩
  rcases entries_agree reportable with accepted | ⟨diagnosis, refused⟩
  · cases accepted.diagnosed.symm.trans diagnosed
  · cases refused.diagnosed.symm.trans diagnosed
    refine ⟨_, refused, rfl, ?_⟩
    simp only [Diagnosis.ofViolation, Violation.message, Json.inSentence]
    decide +kernel

end Document

end Formulary
