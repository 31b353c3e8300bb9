import Formulary.Proofs.Evaluation.Safety
import Formulary.Proofs.Store.Scan

namespace Formulary

/-! # The answer that tables give

The answer to a document is found in the tables themselves: every name of its
formula is searched for row by row, from left to right, before anything is
computed.  The store, which is indexed and which computes as it goes, reports
this answer as long as no operation is out of range.
-/

namespace Tables

/-- The leftmost name that has no value for a security. -/
def unresolved? (tables : Tables) (securityId : Id) (formula : Formula) : Option Text :=
  formula.references.find? fun name => (tables.value? securityId name).isNone

def refusal (tables : Tables) (name : Text) : Result :=
  match tables.attribute? name with
  | none => ⟨false, .int 0, "Attribute (" ++ name ++ ") could not be found.", "DSL102"⟩
  | some _ => ⟨false, .int 0, "Value not found for " ++ name ++ ".", "DSL103"⟩

/-- The answer to a formula about the security of a symbol. -/
def answer (tables : Tables) (symbol : Text) (formula : Formula) : Except RangeError Result :=
  match tables.security? symbol with
  | none => .ok ⟨false, .int 0, "Security (" ++ symbol ++ ") could not be found.", "DSL101"⟩
  | some security =>
    match tables.unresolved? security.id formula with
    | some name => .ok (tables.refusal name)
    | none =>
      (formula.fold fun name => (tables.value? security.id name).getD default).map fun value =>
        ⟨true, value, [], []⟩

variable {tables : Tables} {securityId : Id} {name : Text} {value : Number}

theorem store_valueOf_of_value? (found : tables.value? securityId name = some value) :
    tables.store.valueOf securityId name = .ok value := by
  simp only [value?, bind, Option.bind_eq_some_iff, pure, Option.some.injEq] at found
  obtain ⟨row, named, fact, joined, rfl⟩ := found
  simp only [Store.valueOf, store_attribute?, named, store_fact?, joined]

def failureOf (tables : Tables) (name : Text) : Failure :=
  match tables.attribute? name with
  | none => .unknownAttribute name
  | some _ => .missingFact name

theorem refusal_eq : tables.refusal name = .ofFailure (tables.failureOf name) := by
  unfold refusal failureOf
  cases tables.attribute? name <;> rfl

theorem store_valueOf_of_none (missing : tables.value? securityId name = none) :
    tables.store.valueOf securityId name = .error (tables.failureOf name) := by
  simp only [Store.valueOf, store_attribute?, store_fact?, failureOf]
  cases named : tables.attribute? name with
  | none => rfl
  | some row =>
      cases joined : tables.fact? row.id securityId with
      | none => simp only [joined]
      | some fact => simp [value?, named, joined, bind, pure] at missing

theorem evaluate_of_resolved {formula : Formula}
    (resolved : tables.unresolved? securityId formula = none) :
    formula.evaluate (tables.store.valueOf securityId) =
      (formula.fold fun name => (tables.value? securityId name).getD default).mapError
        fun error => .unexpected (.range error) := by
  refine Formula.evaluate_eq_fold fun name member => ?_
  have present := List.find?_eq_none.mp resolved name member
  obtain ⟨value, found⟩ := Option.ne_none_iff_exists'.mp (by simpa using present)
  rw [store_valueOf_of_value? found, found]
  rfl

/-- The leftmost name without a value decides the failure. -/
theorem evaluate_of_unresolved {formula : Formula}
    (withinRange : ¬ formula.Overflows (tables.store.valueOf securityId))
    (unresolved : tables.unresolved? securityId formula = some name) :
    formula.evaluate (tables.store.valueOf securityId) = .error (tables.failureOf name) := by
  obtain ⟨missing, done, rest, names, resolved⟩ := List.find?_eq_some_iff_append.mp unresolved
  simp only [Formula.overflows_iff Store.valueOf_isMissing, not_exists] at withinRange
  refine Formula.evaluate_of_leftmost withinRange names (fun earlier member => ?_)
    (store_valueOf_of_none (Option.isNone_iff_eq_none.mp missing))
  obtain ⟨value, found⟩ := Option.isSome_iff_exists.mp (by simpa using resolved earlier member)
  exact ⟨value, store_valueOf_of_value? found⟩

end Tables

namespace Document

/-- Executing a valid document gives the answer of the tables, unless an
operation goes out of range. -/
theorem execute_eq_answer (tables : Tables) {document : Json}
    (accepted : validate document = .ok ()) :
    ∃ symbol formula, formula? document = some (symbol, formula) ∧
      ((∀ security, tables.security? symbol = some security →
          ¬ formula.Overflows (tables.store.valueOf security.id)) →
        tables.answer symbol formula = .ok (tables.store.execute document)) := by
  obtain ⟨symbol, formula, reads, computed⟩ := evaluate_of_validate accepted
  refine ⟨symbol, formula, reads, fun withinRange => ?_⟩
  have computed := computed tables.store
  rw [Tables.store_security?] at computed
  cases found : tables.security? symbol with
  | none =>
      simp only [found] at computed
      rw [Store.execute_of_error computed, Tables.answer, found]
      rfl
  | some security =>
      simp only [found] at computed
      simp only [Tables.answer, found]
      cases sought : tables.unresolved? security.id formula with
      | some name =>
          have run := Tables.evaluate_of_unresolved (withinRange security found) sought
          simp only [run, Except.map] at computed
          simp only [Store.execute_of_error computed, Tables.refusal_eq]
      | none =>
          have run := Tables.evaluate_of_resolved sought
          have calm := withinRange security found
          rw [Formula.overflows_iff Store.valueOf_isMissing, run] at calm
          cases folded : formula.fold fun name =>
              (tables.value? security.id name).getD default with
          | error error => exact (calm ⟨error, by rw [folded]; rfl⟩).elim
          | ok value =>
              simp only [run, folded, Except.mapError, Except.map] at computed
              rw [Store.execute_of_ok computed]
              rfl

/-- Tables in which rows are repeated, and one identifier is once a float. -/
def repeatedRows : Tables where
  securities := [⟨.number (.int 1), "ABC", []⟩, ⟨.number (.int 2), "ABC", []⟩]
  attributes := [⟨.number (.int 7), "price", []⟩, ⟨.number (.int 8), "price", []⟩]
  facts := [⟨.number (.int 2), .number (.int 7), .int 30⟩,
    ⟨.number (.float (.ofDecimal false 1 0)), .number (.int 7), .int 10⟩,
    ⟨.number (.int 1), .number (.int 7), .int 20⟩]

def doubledPrice : Json :=
  .object
    [("security", .string "ABC"),
      ("expression",
        .object [("fn", .string "*"), ("a", .string "price"), ("b", .number (.int 2))])]

def doubledFormula : Formula :=
  .apply .multiply (.reference "price") (.literal (.int 2))

theorem formula?_doubledPrice : formula? doubledPrice = some (Text.ofString "ABC", doubledFormula) := by
  decide +kernel

theorem not_overflows_doubledPrice :
    ¬ doubledFormula.Overflows (repeatedRows.store.valueOf (.number (.int 1))) := by
  have price : repeatedRows.value? (.number (.int 1)) "price" = some (.int 10) := by decide +kernel
  rw [Formula.overflows_iff Store.valueOf_isMissing]
  simp only [doubledFormula, Formula.evaluate, Tables.store_valueOf_of_value? price]
  intro given
  obtain ⟨error, failed⟩ := given
  cases failed

theorem execute_eq_answer_doubledPrice :
    validate doubledPrice = .ok () ∧
      ∃ symbol formula, formula? doubledPrice = some (symbol, formula) ∧
        repeatedRows.answer symbol formula = .ok (repeatedRows.store.execute doubledPrice) := by
  have accepted : validate doubledPrice = .ok () := Except.eq_ok_of_isOk (by decide +kernel)
  obtain ⟨symbol, formula, reads, answered⟩ := execute_eq_answer repeatedRows accepted
  refine ⟨accepted, symbol, formula, reads, answered fun security found => ?_⟩
  cases reads.symm.trans formula?_doubledPrice
  have first : repeatedRows.security? "ABC" = some ⟨.number (.int 1), "ABC", []⟩ := rfl
  cases found.symm.trans first
  exact not_overflows_doubledPrice

end Document

end Formulary
