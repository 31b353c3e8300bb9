import Formulary.Proofs.Evaluation.Context
import Formulary.Proofs.Store.Growth

namespace Formulary

/-! # Results in a changed store

A result can only change with what is found in the store.  So rows at the ends
of the tables change no value and no unexpected failure, as everything that
these came across was found before, and the order of rows of different keys
changes nothing at all.
-/

/-- Two outcomes are the same, unless the first one is a failure that is excused. -/
def SameUnless {α : Type} (excused : Failure → Prop) (first second : Except Failure α) : Prop :=
  second = first ∨ ∃ failure, first = .error failure ∧ excused failure

namespace SameUnless

variable {α β : Type} {excused : Failure → Prop} {first second : Except Failure α}

theorem refl (outcome : Except Failure α) : SameUnless excused outcome outcome := .inl rfl

theorem bind {next nextOther : α → Except Failure β} (same : SameUnless excused first second)
    (goesOn : ∀ value, SameUnless excused (next value) (nextOther value)) :
    SameUnless excused (first >>= next) (second >>= nextOther) := by
  rcases same with rfl | ⟨failure, rfl, isExcused⟩
  · cases second with
    | error failure => exact .refl _
    | ok value => exact goesOn value
  · exact .inr ⟨failure, rfl, isExcused⟩

theorem eq_of_never (same : SameUnless (fun _ => False) first second) : second = first := by
  rcases same with same | ⟨_, _, never⟩
  · exact same
  · exact never.elim

end SameUnless

/-- Nothing else is wrong than that something is not in the store. -/
def Failure.IsAbsence (failure : Failure) : Prop :=
  ∀ mishap, failure ≠ .unexpected mishap

theorem Failure.isAbsence_unknownSecurity (shown : Text) : (unknownSecurity shown).IsAbsence := by
  simp [IsAbsence]

theorem Failure.IsMissing.isAbsence {failure : Failure} (missing : failure.IsMissing) :
    failure.IsAbsence := by
  rintro mishap rfl
  exact missing

theorem Failure.IsAbsence.code_mem {failure : Failure} (absence : failure.IsAbsence) :
    failure.code ∈ [Code.unknownSecurity, .unknownAttribute, .missingFact] := by
  cases failure with
  | unexpected mishap => exact absurd rfl (absence mishap)
  | _ => simp [Failure.code]

namespace Store

variable {smaller larger : Store}

theorem Extends.securityNamed (grown : smaller.Extends larger) (named : Json) :
    SameUnless Failure.IsAbsence (smaller.securityNamed named) (larger.securityNamed named) := by
  cases named with
  | string symbol =>
      cases found : smaller.security? symbol with
      | none =>
          refine .inr ⟨_, ?_, Failure.isAbsence_unknownSecurity symbol⟩
          simp only [Store.securityNamed, found]
      | some row =>
          refine .inl ?_
          simp only [Store.securityNamed, found, grown.securities symbol row found]
  | _ => exact .refl _

theorem Extends.valueOf (grown : smaller.Extends larger) (securityId : Id) (name : Text) :
    SameUnless Failure.IsAbsence (smaller.valueOf securityId name)
      (larger.valueOf securityId name) := by
  have absent (failure : Failure) (failed : smaller.valueOf securityId name = .error failure) :
      SameUnless Failure.IsAbsence (smaller.valueOf securityId name)
        (larger.valueOf securityId name) :=
    .inr ⟨failure, failed, (valueOf_isMissing name failure failed).isAbsence⟩
  cases named : smaller.attribute? name with
  | none => exact absent (.unknownAttribute name) (by simp only [Store.valueOf, named])
  | some row =>
      cases joined : smaller.fact? row.id securityId with
      | none => exact absent (.missingFact name) (by simp only [Store.valueOf, named, joined])
      | some fact =>
          refine .inl ?_
          simp only [Store.valueOf, named, joined, grown.attributes name row named,
            grown.facts row.id securityId fact joined]

end Store

namespace Document

variable {store other : Store} {securityId otherId : Id} {excused : Failure → Prop}

theorem evaluateOperand_sameUnless {nested nestedOther : Fields → Except Failure Number}
    (values : ∀ name, SameUnless excused (store.valueOf securityId name)
      (other.valueOf otherId name))
    (inside : ∀ node, SameUnless excused (nested node) (nestedOther node)) (operand : Json) :
    SameUnless excused (evaluateOperand store securityId nested operand)
      (evaluateOperand other otherId nestedOther operand) := by
  cases operand with
  | string name => exact values name
  | object node => exact inside node
  | _ => exact .refl _

/-- What an expression evaluates to depends on the store by the values of names alone. -/
theorem evaluateExpression_sameUnless
    (values : ∀ name, SameUnless excused (store.valueOf securityId name)
      (other.valueOf otherId name)) (room : Nat) (node : Fields) :
    SameUnless excused (evaluateExpression store securityId room node)
      (evaluateExpression other otherId room node) := by
  induction room generalizing node with
  | zero => exact .refl _
  | succ room ih =>
      have side (side : Side) :
          SameUnless excused
            (sideValue store securityId (evaluateExpression store securityId room) node side)
            (sideValue other otherId (evaluateExpression other otherId room) node side) :=
        (SameUnless.refl _).bind (evaluateOperand_sameUnless values ih)
      rw [evaluateExpression_sides, evaluateExpression_sides]
      exact (side .left).bind fun left => (side .right).bind fun right => .refl _

theorem evaluate_sameUnless
    (securities : ∀ named, SameUnless excused (store.securityNamed named)
      (other.securityNamed named))
    (values : ∀ securityId name, SameUnless excused (store.valueOf securityId name)
      (other.valueOf securityId name)) (document : Json) :
    SameUnless excused (evaluate store document) (evaluate other document) := by
  cases document with
  | object fields =>
      simp only [evaluate]
      split
      · exact .refl _
      · refine (securities _).bind fun security => ?_
        split
        · exact (evaluateExpression_sameUnless (values security.id) _ _).bind fun value => .refl _
        · exact .refl _
  | _ => exact .refl _

theorem execute_of_sameUnless {document : Json}
    (same : SameUnless excused (evaluate store document) (evaluate other document)) :
    other.execute document = store.execute document ∨
      ∃ failure, store.execute document = .ofFailure failure ∧ excused failure := by
  rcases same with same | ⟨failure, failed, isExcused⟩
  · exact .inl (by rw [Store.execute, Store.execute, same])
  · exact .inr ⟨failure, Store.execute_of_error failed, isExcused⟩

/-- A larger store can only change a result that reports something absent. -/
theorem execute_of_extends {smaller larger : Store} (grown : smaller.Extends larger)
    (document : Json) :
    larger.execute document = smaller.execute document ∨
      ∃ failure, smaller.execute document = .ofFailure failure ∧ failure.IsAbsence :=
  execute_of_sameUnless (evaluate_sameUnless grown.securityNamed grown.valueOf document)

theorem execute_of_permuted {tables others : Tables} (same : tables.Permuted others)
    (distinct : tables.DistinctKeys) (document : Json) :
    others.store.execute document = tables.store.execute document := by
  have securities (named : Json) :
      others.store.securityNamed named = tables.store.securityNamed named := by
    cases named <;> simp only [Store.securityNamed, same.store_security? distinct]
  have values (securityId : Id) (name : Text) :
      others.store.valueOf securityId name = tables.store.valueOf securityId name := by
    simp only [Store.valueOf, same.store_attribute? distinct, same.store_fact? distinct]
  -- all look-ups agree, so that no failure has to be excused
  have evaluated : SameUnless (fun _ => False) (evaluate tables.store document)
      (evaluate others.store document) :=
    evaluate_sameUnless (fun named => .inl (securities named))
      (fun securityId name => .inl (values securityId name)) document
  rw [Store.execute, Store.execute, evaluated.eq_of_never]

/-- Values and unexpected failures outlast all rows that are added at the ends of
the tables, and where no two rows share a key, any result outlasts reordering. -/
theorem execute_of_tables (tables : Tables) (document : Json) :
    (∀ more : Tables,
      ((tables.store.execute document).success = true ∨
          (tables.store.execute document).code = Code.unexpected.name →
        (tables.append more).store.execute document = tables.store.execute document) ∧
      ((tables.append more).store.execute document ≠ tables.store.execute document →
        (tables.store.execute document).code ∈
          [Code.unknownSecurity, .unknownAttribute, .missingFact].map Code.name)) ∧
    (tables.DistinctKeys → ∀ others, tables.Permuted others →
      others.store.execute document = tables.store.execute document) := by
  refine ⟨fun more => ?_, fun distinct others same => execute_of_permuted same distinct document⟩
  rcases execute_of_extends (tables.store_extends_append more) document with
    same | ⟨failure, failed, absence⟩
  · exact ⟨fun _ => same, fun changed => absurd same changed⟩
  · rw [failed, Result.ofFailure_code_eq]
    refine ⟨?_, fun _ => List.mem_map_of_mem absence.code_mem⟩
    rintro (succeeded | ⟨mishap, unexpected⟩)
    · cases succeeded
    · exact absurd unexpected (absence mishap)

/-- Rows with the keys of rows that are there, and a dividend. -/
def laterRows : Tables where
  securities := [⟨.number (.int 2), "ABC", []⟩]
  attributes := [⟨.number (.int 9), "price", []⟩]
  facts := [⟨.number (.float (.ofDecimal false 1 0)), .number (.int 7), .int 20⟩,
    ⟨.number (.int 1), .number (.int 8), .int 1⟩]

/-- The rows of attributes in the other order. -/
def pricedLast : Tables where
  securities := pricedOnly.securities
  attributes := pricedOnly.attributes.reverse
  facts := pricedOnly.facts

def quotientDocument : Json :=
  .object [(securityName, .string "ABC"), (expressionName, quotient)]

theorem execute_of_tables_quotient :
    pricedOnly.DistinctKeys ∧ pricedOnly.Permuted pricedLast ∧
      (pricedOnly.store.execute quotientDocument).success = true ∧
      (pricedOnly.append laterRows).store.execute quotientDocument =
        pricedOnly.store.execute quotientDocument ∧
      pricedLast.store.execute quotientDocument = pricedOnly.store.execute quotientDocument := by
  have distinct : pricedOnly.DistinctKeys :=
    ⟨by simp [pricedOnly], by decide +kernel, by simp [pricedOnly]⟩
  have permuted : pricedOnly.Permuted pricedLast := ⟨.refl _, (List.reverse_perm _).symm, .refl _⟩
  have evaluated : evaluate pricedOnly.store quotientDocument =
      .ok (⟨.number (.int 1), "ABC", []⟩, .float (.infinity true)) :=
    (evaluate_of_known rfl security?_pricedOnly rfl).trans
      (congrArg (Except.map _) operandValue_quotient)
  have succeeded : (pricedOnly.store.execute quotientDocument).success = true := by
    rw [Store.execute_of_ok evaluated]
    rfl
  obtain ⟨grows, reorders⟩ := execute_of_tables pricedOnly quotientDocument
  exact ⟨distinct, permuted, succeeded, (grows laterRows).1 (.inl succeeded),
    reorders distinct pricedLast permuted⟩

end Document

end Formulary
