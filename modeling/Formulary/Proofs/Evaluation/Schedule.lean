import Formulary.Proofs.Evaluation.Formula

namespace Formulary

/-! # The schedule of a formula

The schedule lists the steps of a computation in their order: the operands of
an operator, left before right, then the operator.  Performing the steps on a
stack of values computes the formula, and so what can go wrong is located at
one step, before which every look-up and every operation has succeeded.
-/

inductive Step where
  | literal (value : Number)
  | lookUp (name : Text)
  | apply (operator : Operator)
deriving DecidableEq, Repr

namespace Step

/-- Perform a step on the values computed so far, the latest one first. -/
def perform (resolve : Text → Except Failure Number) :
    Step → List Number → Except Failure (List Number)
  | literal value, stack => .ok (value :: stack)
  | lookUp name, stack => (resolve name).map (· :: stack)
  | apply operator, right :: left :: stack =>
    match operator.apply left right with
    | .ok value => .ok (value :: stack)
    | .error error => .error (.unexpected (.range error))
  | apply _, _ => .error (.unexpected .malformed)

def performAll (resolve : Text → Except Failure Number) :
    List Step → List Number → Except Failure (List Number)
  | [], stack => .ok stack
  | step :: rest, stack => do
    let stack ← step.perform resolve stack
    performAll resolve rest stack

end Step

variable {resolve : Text → Except Failure Number} {formula : Formula} {failure : Failure}

def Failure.IsMissing : Failure → Prop
  | .unknownAttribute _ | .missingFact _ => True
  | .unknownSecurity _ | .unexpected _ => False

namespace Formula

def schedule : Formula → List Step
  | literal value => [.literal value]
  | reference name => [.lookUp name]
  | apply operator left right => left.schedule ++ right.schedule ++ [.apply operator]

/-- An operation that the schedule comes to is out of range. -/
def Overflows (resolve : Text → Except Failure Number) (formula : Formula) : Prop :=
  ∃ done operator rest left right stack error,
    formula.schedule = done ++ .apply operator :: rest ∧
    Step.performAll resolve done [] = .ok (right :: left :: stack) ∧
    operator.apply left right = .error error

end Formula

namespace Step

theorem performAll_append (done rest : List Step) (stack : List Number) :
    performAll resolve (done ++ rest) stack =
      (performAll resolve done stack).bind (performAll resolve rest) := by
  induction done generalizing stack with
  | nil => rfl
  | cons step done ih =>
      simp only [List.cons_append, performAll, bind, Except.bind]
      cases step.perform resolve stack with
      | error failure => rfl
      | ok next => exact ih next

/-- Performing a schedule computes the formula on top of what is on the stack. -/
theorem performAll_schedule (formula : Formula) (stack : List Number) :
    performAll resolve formula.schedule stack = (formula.evaluate resolve).map (· :: stack) := by
  induction formula generalizing stack with
  | literal value => rfl
  | reference name =>
      simp only [Formula.schedule, performAll, perform, Formula.evaluate, bind, Except.bind]
      cases resolve name <;> rfl
  | apply operator left right leftIH rightIH =>
      simp only [Formula.schedule, performAll_append, leftIH, Formula.evaluate, bind]
      cases left.evaluate resolve with
      | error failure => rfl
      | ok leftValue =>
          simp only [Except.map, Except.bind, rightIH]
          cases right.evaluate resolve with
          | error failure => rfl
          | ok rightValue =>
              simp only [performAll, perform, bind, Except.bind]
              cases operator.apply leftValue rightValue <;> rfl

theorem performAll_eq_error {steps : List Step} {stack : List Number}
    (failed : performAll resolve steps stack = .error failure) :
    ∃ done step rest before, steps = done ++ step :: rest ∧
      performAll resolve done stack = .ok before ∧ step.perform resolve before = .error failure := by
  induction steps generalizing stack with
  | nil => cases failed
  | cons step rest ih =>
      cases first : step.perform resolve stack with
      | error reason =>
          simp only [performAll, first, bind, Except.bind, Except.error.injEq] at failed
          exact ⟨[], step, rest, stack, rfl, rfl, failed ▸ first⟩
      | ok next =>
          simp only [performAll, first, bind, Except.bind] at failed
          obtain ⟨done, faulty, after, before, same, performed, fault⟩ := ih failed
          exact ⟨step :: done, faulty, after, before, by simp [same],
            by simp only [performAll, first, bind, Except.bind, performed], fault⟩

end Step

namespace Formula

/-- A computation goes out of range exactly when its schedule comes to an
operation that does. -/
theorem overflows_iff
    (missing : ∀ name failure, resolve name = .error failure → failure.IsMissing) :
    formula.Overflows resolve ↔
      ∃ error, formula.evaluate resolve = .error (.unexpected (.range error)) := by
  have performed : Step.performAll resolve formula.schedule [] =
      (formula.evaluate resolve).map (· :: []) := Step.performAll_schedule formula []
  constructor
  · intro given
    obtain ⟨done, operator, rest, left, right, stack, error, schedule, before, applied⟩ := given
    rw [schedule, Step.performAll_append, before] at performed
    simp only [Except.bind, Step.performAll, Step.perform, applied, bind] at performed
    cases evaluated : formula.evaluate resolve with
    | ok value => simp [evaluated, Except.map] at performed
    | error failure =>
        simp only [evaluated, Except.map, Except.error.injEq] at performed
        exact ⟨error, performed ▸ rfl⟩
  · intro given
    obtain ⟨error, failed⟩ := given
    simp only [failed, Except.map] at performed
    obtain ⟨done, step, rest, before, schedule, reached, fault⟩ := Step.performAll_eq_error performed
    cases step with
    | literal value => cases fault
    | lookUp name =>
        cases resolved : resolve name with
        | ok value => simp [Step.perform, resolved, Except.map] at fault
        | error failure =>
            simp only [Step.perform, resolved, Except.map, Except.error.injEq] at fault
            have absurdity := missing name failure resolved
            rw [fault] at absurdity
            exact absurdity.elim
    | apply operator =>
        match before with
        | [] | [_] => simp [Step.perform] at fault
        | right :: left :: stack =>
            cases applied : operator.apply left right with
            | ok value => simp [Step.perform, applied] at fault
            | error error =>
                exact ⟨done, operator, rest, left, right, stack, error, schedule, reached, applied⟩

end Formula

end Formulary
