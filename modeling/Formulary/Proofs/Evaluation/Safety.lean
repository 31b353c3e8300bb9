import Formulary.Store.BuiltIn
import Formulary.Proofs.Evaluation.Schedule

namespace Formulary

/-! # Valid documents do not go wrong

Evaluating a valid document either gives a value, or something is not found,
or an operation is out of range.  The last is reported exactly when the
schedule of its formula comes to such an operation before a look-up fails; a
member that is missing or of the wrong kind is never come across.
-/

namespace Store

variable {store : Store} {securityId : Id}

theorem valueOf_eq_error {name : Text} {failure : Failure}
    (failed : store.valueOf securityId name = .error failure) :
    failure = .unknownAttribute name ∨ failure = .missingFact name := by
  unfold valueOf at failed
  split at failed
  · exact .inl (Except.error.inj failed).symm
  · split at failed
    · exact .inr (Except.error.inj failed).symm
    · cases failed

theorem valueOf_isMissing (name : Text) (failure : Failure)
    (failed : store.valueOf securityId name = .error failure) : failure.IsMissing := by
  rcases valueOf_eq_error failed with rfl | rfl <;> trivial

theorem execute_of_ok {document : Json} {security : Security} {value : Number}
    (evaluated : Document.evaluate store document = .ok (security, value)) :
    store.execute document = .ofValue value := by
  simp only [execute, evaluated]

theorem execute_of_error {document : Json} {failure : Failure}
    (evaluated : Document.evaluate store document = .error failure) :
    store.execute document = .ofFailure failure := by
  simp only [execute, evaluated]

end Store

/-- The failures that a valid document can lead to. -/
inductive Failure.IsOrdinary : Failure → Prop where
  | unknownSecurity (shown : Text) : IsOrdinary (.unknownSecurity shown)
  | unknownAttribute (name : Text) : IsOrdinary (.unknownAttribute name)
  | missingFact (name : Text) : IsOrdinary (.missingFact name)
  | range (error : RangeError) : IsOrdinary (.unexpected (.range error))

theorem Failure.IsMissing.isOrdinary {failure : Failure} (missing : failure.IsMissing) :
    failure.IsOrdinary := by
  cases failure with
  | unknownAttribute name => exact .unknownAttribute name
  | missingFact name => exact .missingFact name
  | _ => exact missing.elim

theorem Code.name_injective : Function.Injective Code.name := by
  intro left right same
  revert same
  cases left <;> cases right <;> decide

theorem Result.ofFailure_code_eq {failure : Failure} :
    (ofFailure failure).code = Code.unexpected.name ↔ ∃ mishap, failure = .unexpected mishap := by
  have code : (ofFailure failure).code = failure.code.name := rfl
  rw [code, Code.name_injective.eq_iff]
  cases failure <;> simp [Failure.code]

theorem Result.ofValue_code_ne (value : Number) (code : Code) :
    (ofValue value).code ≠ code.name := by
  cases code <;> simp only [ofValue, Code.name] <;> decide

namespace Document

variable {document : Json}

/-- A valid document is evaluated to a value or to an ordinary failure, and its
failure is the unexpected one exactly when an operation of its schedule goes
out of range. -/
theorem execute_of_validate (store : Store) (accepted : validate document = .ok ()) :
    ∃ symbol formula, formula? document = some (symbol, formula) ∧
      ((∃ security value, evaluate store document = .ok (security, value) ∧
          store.execute document = .ofValue value) ∨
        ∃ failure, evaluate store document = .error failure ∧ failure.IsOrdinary ∧
          store.execute document = .ofFailure failure) ∧
      ((store.execute document).code = Code.unexpected.name ↔
        ∃ security, store.security? symbol = some security ∧
          formula.Overflows (store.valueOf security.id)) := by
  obtain ⟨symbol, formula, reads, computed⟩ := evaluate_of_validate accepted
  refine ⟨symbol, formula, reads, ?_⟩
  have computed := computed store
  cases found : store.security? symbol with
  | none =>
      simp only [found] at computed
      rw [Store.execute_of_error computed, Result.ofFailure_code_eq]
      exact ⟨.inr ⟨_, computed, .unknownSecurity symbol, rfl⟩, by simp⟩
  | some security =>
      simp only [found] at computed
      simp only [Option.some.injEq, exists_eq_left',
        Formula.overflows_iff Store.valueOf_isMissing]
      cases run : formula.evaluate (store.valueOf security.id) with
      | ok value =>
          simp only [run, Except.map] at computed
          rw [Store.execute_of_ok computed]
          exact ⟨.inl ⟨security, value, computed, rfl⟩,
            iff_of_false (Result.ofValue_code_ne value .unexpected) (by simp)⟩
      | error failure =>
          simp only [run, Except.map] at computed
          rw [Store.execute_of_error computed, Result.ofFailure_code_eq]
          rcases Formula.evaluate_eq_error run with ⟨name, _, unresolved⟩ | ⟨error, rfl⟩
          · have missing := Store.valueOf_isMissing name failure unresolved
            refine ⟨.inr ⟨failure, computed, missing.isOrdinary, rfl⟩, iff_of_false ?_ ?_⟩
            · intro given
              obtain ⟨mishap, rfl⟩ := given
              exact missing
            · intro given
              obtain ⟨error, same⟩ := given
              rw [Except.error.inj same] at missing
              exact missing
          · exact ⟨.inr ⟨_, computed, .range error, rfl⟩, iff_of_true ⟨_, rfl⟩ ⟨error, rfl⟩⟩

theorem execute_of_validate_infiniteDivisor :
    validate infiniteDivisor = .ok () ∧
      ∃ symbol formula, formula? infiniteDivisor = some (symbol, formula) ∧
        ((∃ security value, evaluate .builtIn infiniteDivisor = .ok (security, value) ∧
            Store.builtIn.execute infiniteDivisor = .ofValue value) ∨
          ∃ failure, evaluate .builtIn infiniteDivisor = .error failure ∧ failure.IsOrdinary ∧
            Store.builtIn.execute infiniteDivisor = .ofFailure failure) ∧
        ((Store.builtIn.execute infiniteDivisor).code = Code.unexpected.name ↔
          ∃ security, Store.builtIn.security? symbol = some security ∧
            formula.Overflows (Store.builtIn.valueOf security.id)) :=
  ⟨validate_infiniteDivisor, execute_of_validate .builtIn validate_infiniteDivisor⟩

end Document

end Formulary
