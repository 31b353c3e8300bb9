import Formulary.Store.BuiltIn
import Formulary.Evaluation
import Formulary.Proofs.Document.Grammar

namespace Formulary

/-! # What is reported as a value

A document that is refused is reported on by a value, whether it is asked for
a verdict, for a diagnosis or for its result.  There is one exception: where
validation comes to a node with an integer beyond the range of floats, the
test for presence fails, and this error is not reported but passed on.
-/

theorem Number.floatOfInt_eq_error_iff {value : Int} {error : RangeError} :
    floatOfInt value = .error error ↔ Binary64.ofInt? value = none ∧ error = .conversion := by
  unfold floatOfInt
  cases Binary64.ofInt? value with
  | some rounded => simp
  | none => simp [eq_comm]

theorem Number.inRange_zero : (int 0).InRange := by
  have zero : (Binary64.ofInt? 0).isSome = true := by decide +kernel
  exact zero

/-- The test for presence fails for the integers beyond the range of floats. -/
theorem Number.isTruthy_eq_error_iff {value : Number} {error : RangeError} :
    value.isTruthy = .error error ↔ ¬ value.InRange ∧ error = .conversion := by
  cases value with
  | float value => simp [isTruthy, InRange]
  | int value =>
      by_cases zero : value = 0
      · subst zero
        simp [isTruthy, inRange_zero]
      · rw [isTruthy, if_neg zero, InRange, Option.not_isSome_iff_eq_none, ← floatOfInt_eq_error_iff]
        cases floatOfInt value <;> simp [Except.map]

namespace Document

variable {node found : Fields} {room : Nat} {error : RangeError}

theorem hasMember_eq_error_iff {member : Member} :
    hasMember node member = .error error ↔
      (∃ value, node.get? member.name = some (.number value) ∧ ¬ value.InRange) ∧
        error = .conversion := by
  cases present : node.get? member.name with
  | none => simp [hasMember, present]
  | some value =>
      cases value with
      | number value => simp [hasMember, present, Json.isTruthy, Number.isTruthy_eq_error_iff]
      | _ => simp [hasMember, present, Json.isTruthy]

theorem missingMembers_eq_error {members : List Member}
    (failed : missingMembers node members = .error error) : error = .conversion := by
  induction members with
  | nil => cases failed
  | cons member rest ih =>
      cases first : hasMember node member with
      | error reason =>
          simp only [missingMembers, first, bind, Except.bind, Except.error.injEq] at failed
          exact failed ▸ (hasMember_eq_error_iff.mp first).2
      | ok present =>
          cases others : missingMembers node rest with
          | error reason =>
              simp only [missingMembers, first, others, bind, Except.bind,
                Except.error.injEq] at failed
              exact ih (failed ▸ others)
          | ok missing => simp [missingMembers, first, others, bind, Except.bind, pure,
              Except.pure] at failed

/-- The members of a list are looked at as far as the first one that is beyond the range. -/
theorem missingMembers_of_beyond {members : List Member} {member : Member} {value : Number}
    (listed : member ∈ members) (present : node.get? member.name = some (.number value))
    (beyond : ¬ value.InRange) : missingMembers node members = .error .conversion := by
  induction members with
  | nil => cases listed
  | cons first rest ih =>
      cases tested : hasMember node first with
      | error reason =>
          obtain ⟨_, rfl⟩ := hasMember_eq_error_iff.mp tested
          simp only [missingMembers, tested, bind, Except.bind]
      | ok missing =>
          have later : member ∈ rest := by
            refine (List.mem_cons.mp listed).resolve_left ?_
            rintro rfl
            rw [hasMember_eq_error_iff.mpr ⟨⟨value, present, beyond⟩, rfl⟩] at tested
            cases tested
          simp only [missingMembers, tested, ih later, bind, Except.bind]

theorem missingMembers_eq_error_iff :
    missingMembers node Member.all = .error error ↔
      ¬ MembersInRange node ∧ error = .conversion := by
  constructor
  · intro failed
    refine ⟨fun fits => ?_, missingMembers_eq_error failed⟩
    obtain ⟨missing, tested⟩ := missingMembers_exists fits Member.all
    rw [tested] at failed
    cases failed
  · rintro ⟨beyond, rfl⟩
    simp only [MembersInRange, not_forall] at beyond
    obtain ⟨member, value, present, beyond⟩ := beyond
    exact missingMembers_of_beyond (mem_all member) present beyond

theorem refuse_ne_range (violation : Violation) :
    refuse room violation ≠ .error (.range error) := by
  unfold refuse
  split <;> simp

theorem checkNode_eq_range_iff :
    checkNode room node = .error (.range error) ↔
      ¬ MembersInRange node ∧ error = .conversion := by
  rw [← missingMembers_eq_error_iff]
  cases tested : missingMembers node Member.all with
  | error reason => simp [checkNode, tested, Except.mapError, bind, Except.bind]
  | ok missing =>
      rw [checkNode_of_tested tested]
      refine iff_of_false ?_ (by simp)
      split
      · exact refuse_ne_range _
      · split
        · exact refuse_ne_range _
        · split
          · exact refuse_ne_range _
          · simp

theorem validateSide_eq_range_iff {side : Side} :
    validateSide room side node = .error (.range error) ↔
      ∃ inner, node.get? side.name = some (.object inner) ∧
        validateExpression room inner = .error (.range error) := by
  cases present : node.get? side.name with
  | none => simp [validateSide, present, validateOperand, refuse_ne_range]
  | some operand =>
      cases operand <;> simp [validateSide, present, validateOperand, refuse_ne_range]

/-- Validation of an expression comes to a node of it: all that is looked at
on the way has been accepted. -/
inductive ComesTo : Nat → Fields → Fields → Prop where
  | here {room : Nat} {node : Fields} : ComesTo (room + 1) node node
  | inside {room : Nat} {node inner found : Fields} {side : Side}
      (checked : checkNode room node = .ok ())
      (leftAccepted : side = .right → validateSide room .left node = .ok ())
      (present : node.get? side.name = some (.object inner))
      (reached : ComesTo room inner found) : ComesTo (room + 1) node found

theorem ComesTo.fails (reached : ComesTo room node found) (beyond : ¬ MembersInRange found) :
    validateExpression room node = .error (.range .conversion) := by
  induction reached with
  | @here room node =>
      have failed : checkNode room node = .error (.range .conversion) :=
        checkNode_eq_range_iff.mpr ⟨beyond, rfl⟩
      rw [validateExpression_succ, failed]
      rfl
  | @inside room node inner found side checked leftAccepted present reached ih =>
      have failed : validateSide room side node = .error (.range .conversion) :=
        validateSide_eq_range_iff.mpr ⟨inner, present, ih beyond⟩
      rw [validateExpression_succ, checked]
      cases side with
      | left =>
          simp only [failed, bind, Except.bind]
      | right =>
          simp only [leftAccepted rfl, failed, bind, Except.bind]

theorem exists_comesTo_of_fails (failed : validateExpression room node = .error (.range error)) :
    error = .conversion ∧ ∃ found, ComesTo room node found ∧ ¬ MembersInRange found := by
  induction room generalizing node with
  | zero => cases failed
  | succ room ih =>
      have inside (side : Side) (checked : checkNode room node = .ok ())
          (leftAccepted : side = .right → validateSide room .left node = .ok ())
          (sideFailed : validateSide room side node = .error (.range error)) :
          error = .conversion ∧ ∃ found, ComesTo (room + 1) node found ∧ ¬ MembersInRange found := by
        obtain ⟨inner, present, innerFailed⟩ := validateSide_eq_range_iff.mp sideFailed
        obtain ⟨kind, found, reached, beyond⟩ := ih innerFailed
        exact ⟨kind, found, .inside checked leftAccepted present reached, beyond⟩
      rw [validateExpression_succ] at failed
      cases checked : checkNode room node with
      | error reason =>
          simp only [checked, bind, Except.bind, Except.error.injEq] at failed
          obtain ⟨beyond, kind⟩ := checkNode_eq_range_iff.mp (failed ▸ checked)
          exact ⟨kind, node, .here, beyond⟩
      | ok _ =>
          cases left : validateSide room .left node with
          | error reason =>
              simp only [checked, left, bind, Except.bind, Except.error.injEq] at failed
              exact inside .left checked (by simp) (failed ▸ left)
          | ok _ =>
              simp only [checked, left, bind, Except.bind] at failed
              exact inside .right checked (fun _ => left) failed

theorem validateExpression_eq_range_iff :
    validateExpression room node = .error (.range error) ↔
      error = .conversion ∧ ∃ found, ComesTo room node found ∧ ¬ MembersInRange found := by
  constructor
  · exact exists_comesTo_of_fails
  · rintro ⟨rfl, found, reached, beyond⟩
    exact reached.fails beyond

theorem validate_eq_range {document : Json} (failed : validate document = .error (.range error)) :
    HasSoundRoot document := by
  rcases validate_cases document with ⟨_, reported⟩ | root | ⟨_, reported, _⟩
  · cases reported.symm.trans failed
  · exact root
  · cases reported.symm.trans failed

/-- Validation comes to a number that it cannot look at. -/
def MeetsBeyond (document : Json) : Prop :=
  ∃ fields node found, document = .object fields ∧ PassesRoot fields node ∧
    ComesTo depthLimit node found ∧ ¬ MembersInRange found

theorem validate_eq_range_iff {document : Json} :
    validate document = .error (.range error) ↔ error = .conversion ∧ MeetsBeyond document := by
  constructor
  · intro failed
    obtain ⟨fields, node, rfl, root⟩ := validate_eq_range failed
    rw [validate_of_passesRoot root] at failed
    obtain ⟨kind, found, reached, beyond⟩ := validateExpression_eq_range_iff.mp failed
    exact ⟨kind, fields, node, found, rfl, root, reached, beyond⟩
  · rintro ⟨rfl, fields, node, found, rfl, root, reached, beyond⟩
    rw [validate_of_passesRoot root]
    exact reached.fails beyond

theorem ComesTo.operandAt? (reached : ComesTo room node found) :
    ∃ path, (Json.object node).operandAt? path = some (.object found) := by
  induction reached with
  | here => exact ⟨[], by simp⟩
  | @inside room node inner found side checked leftAccepted present reached ih =>
      obtain ⟨path, at_path⟩ := ih
      exact ⟨side :: path, Json.operandAt?_object_cons.mpr ⟨_, present, at_path⟩⟩

theorem InRange.not_meetsBeyond {document : Json} (fits : InRange document) :
    ¬ MeetsBeyond document := by
  rintro ⟨fields, node, found, rfl, root, reached, beyond⟩
  obtain ⟨path, at_path⟩ := reached.operandAt?
  exact beyond (fits _ root.expression path found at_path)

/-- No number that validation comes to is beyond the range of floats. -/
def Reportable (source : Source) : Prop :=
  ∀ document, parse source = some document → ¬ MeetsBeyond document

theorem load_eq_range_iff {source : Source} :
    load source = .error (.range error) ↔
      error = .conversion ∧ ∃ document, parse source = some document ∧ MeetsBeyond document := by
  cases parsed : parse source with
  | none => simp [load, parsed]
  | some document =>
      have checked : load source = .error (.range error) ↔
          validate document = .error (.range error) := by
        simp only [load, parsed, bind, Except.bind]
        cases validate document <;> simp [pure, Except.pure]
      simp [checked, validate_eq_range_iff]

theorem load_ne_range_iff {source : Source} :
    (∀ error, load source ≠ .error (.range error)) ↔ Reportable source := by
  simp only [ne_eq, load_eq_range_iff, Reportable]
  constructor
  · intro never document parsed meets
    exact never .conversion ⟨rfl, document, parsed, meets⟩
  · rintro reportable error ⟨rfl, document, parsed, meets⟩
    exact reportable document parsed meets

theorem diagnose_exists_iff {source : Source} :
    (∃ diagnosis?, diagnose source = .ok diagnosis?) ↔
      ∀ error, load source ≠ .error (.range error) := by
  unfold diagnose
  cases load source with
  | ok document => simp
  | error rejection => cases rejection <;> simp

theorem verdict_exists_iff {source : Source} :
    (∃ valid message, verdict source = .ok (valid, message)) ↔
      ∃ diagnosis?, diagnose source = .ok diagnosis? := by
  unfold verdict
  cases diagnose source with
  | error error => simp [bind, Except.bind]
  | ok diagnosis? => cases diagnosis? <;> simp [bind, Except.bind, pure, Except.pure]

theorem run_exists_iff {source : Source} (store : Store) :
    (∃ result, store.run source = .ok result) ↔ ∀ error, load source ≠ .error (.range error) := by
  unfold Store.run
  cases load source with
  | ok document => simp
  | error rejection => cases rejection <;> simp

/-- A verdict, a diagnosis and a result are given for every source, except for
those in which validation comes to an integer beyond the range of floats; and
away from these a document is refused as no JSON or for a violation only. -/
theorem reports_every_rejection (source : Source) :
    ((∃ valid message, verdict source = .ok (valid, message)) ↔ Reportable source) ∧
      ((∃ diagnosis?, diagnose source = .ok diagnosis?) ↔ Reportable source) ∧
      (∀ store : Store, (∃ result, store.run source = .ok result) ↔ Reportable source) ∧
      ((∃ document, load source = .ok document) ∨ load source = .error .notJson ∨
        (∃ violation, load source = .error (.violation violation)) ↔ Reportable source) ∧
      ((∀ document, parse source = some document → InRange document) → Reportable source) := by
  have calm : (∀ error, load source ≠ .error (.range error)) ↔ Reportable source :=
    load_ne_range_iff
  refine ⟨verdict_exists_iff.trans (diagnose_exists_iff.trans calm),
    diagnose_exists_iff.trans calm, fun store => (run_exists_iff store).trans calm, ?_,
    fun fits document parsed => (fits document parsed).not_meetsBeyond⟩
  rw [← calm]
  cases load source with
  | ok document => simp
  | error rejection => cases rejection <;> simp

/-- A document with an integer just beyond the range. -/
def beyondRange : Text :=
  Text.ofString "\x7b\"security\":\"ABC\",\"expression\":\x7b\"fn\":\"+\",\"a\":1" ++
    List.replicate 309 (.scalar '0') ++ Text.ofString ",\"b\":1\x7d\x7d"

/-- The error is passed on instead of a verdict, a diagnosis or a result. -/
theorem beyondRange_passedOn :
    verdict (.text beyondRange) = .error .conversion ∧
      diagnose (.text beyondRange) = .error .conversion ∧
      Store.builtIn.run (.text beyondRange) = .error .conversion :=
  ⟨by decide +kernel, by decide +kernel, by decide +kernel⟩

end Document

end Formulary
