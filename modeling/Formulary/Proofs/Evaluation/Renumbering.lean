import Mathlib.Logic.Equiv.Basic
import Formulary.Proofs.Evaluation.Stability

namespace Formulary

/-! # Renumbered tables

Identifiers do nothing but join rows.  Where securities and attributes are given
other identifiers in all tables, equal ones for equal ones and different ones for
different ones, every document keeps its result: a fact is found again at the
same place, and no message shows an identifier.
-/

namespace Id

/-- Not-a-number is equal to no identifier, not even to itself. -/
def IsComparable (id : Id) : Prop := id ≠ .number (.float .nan)

instance (id : Id) : Decidable id.IsComparable := inferInstanceAs (Decidable (id ≠ _))

/-- Identifiers are equal afterwards exactly if they were equal before. -/
def KeepsEquality (renumber : Id → Id) : Prop :=
  ∀ left right : Id, left.IsComparable → right.IsComparable →
    (renumber left).equal (renumber right) = left.equal right

variable {id : Id} {renumber : Id → Id}

theorem IsComparable.key?_exists (comparable : id.IsComparable) : ∃ key, id.key? = some key := by
  cases id with
  | bool value => exact ⟨_, rfl⟩
  | number value =>
      cases value with
      | int value => exact ⟨_, rfl⟩
      | float value =>
          cases value with
          | nan => exact absurd rfl comparable
          | infinity negative => exact ⟨_, Number.quantity?_infinity negative⟩
          | finite negative rank =>
              have valued : (Number.float (.finite negative rank)).exactUnits? =
                  some (Binary64.signedUnits negative rank) := rfl
              exact Number.quantity?_exists valued

/-- Equality is kept where different keys are given different keys. -/
theorem keepsEquality_of_keys {move : Number.Quantity → Number.Quantity}
    (injective : Function.Injective move)
    (moves : ∀ id key, Id.key? id = some key → (renumber id).key? = some (move key)) :
    KeepsEquality renumber := by
  intro left right onLeft onRight
  obtain ⟨leftKey, leftFound⟩ := onLeft.key?_exists
  obtain ⟨rightKey, rightFound⟩ := onRight.key?_exists
  rw [Bool.eq_iff_iff, equal_iff, equal_iff, moves left leftKey leftFound,
    moves right rightKey rightFound, leftFound, rightFound]
  simp only [Option.some.injEq, exists_eq_left', injective.eq_iff]

/-- Two whole numbers in each other's place. -/
def exchange (first second : Int) (id : Id) : Id :=
  if id.key? = some (.whole first) then .number (.int second)
  else if id.key? = some (.whole second) then .number (.int first)
  else id

theorem keepsEquality_exchange (first second : Int) : KeepsEquality (exchange first second) := by
  refine keepsEquality_of_keys
    (Equiv.swap (Number.Quantity.whole first) (.whole second)).injective fun id key found => ?_
  rw [exchange, found, Equiv.swap_apply_def]
  by_cases isFirst : key = .whole first
  · rw [if_pos (congrArg some isFirst), if_pos isFirst]
    rfl
  · rw [if_neg (fun same => isFirst (Option.some.inj same)), if_neg isFirst]
    by_cases isSecond : key = .whole second
    · rw [if_pos (congrArg some isSecond), if_pos isSecond]
      rfl
    · rw [if_neg (fun same => isSecond (Option.some.inj same)), if_neg isSecond]
      exact found

end Id

/-- Other identifiers for securities, and others for attributes. -/
structure Renumbering where
  ofSecurityId : Id → Id
  ofAttributeId : Id → Id
  securities : Id.KeepsEquality ofSecurityId
  attributes : Id.KeepsEquality ofAttributeId

namespace Renumbering

variable (renumbering : Renumbering)

def ofSecurity (row : Security) : Security :=
  { row with id := renumbering.ofSecurityId row.id }

def ofAttribute (row : Attribute) : Attribute :=
  { row with id := renumbering.ofAttributeId row.id }

def ofFact (row : Fact) : Fact :=
  { row with
    securityId := renumbering.ofSecurityId row.securityId
    attributeId := renumbering.ofAttributeId row.attributeId }

theorem joins_ofFact {row : Fact} {attributeId securityId : Id}
    (ownAttribute : row.attributeId.IsComparable) (ownSecurity : row.securityId.IsComparable)
    (onAttribute : attributeId.IsComparable) (onSecurity : securityId.IsComparable) :
    (renumbering.ofFact row).joins (renumbering.ofAttributeId attributeId)
        (renumbering.ofSecurityId securityId) =
      row.joins attributeId securityId := by
  simp only [Fact.joins, ofFact, renumbering.attributes _ _ ownAttribute onAttribute,
    renumbering.securities _ _ ownSecurity onSecurity]

end Renumbering

namespace Tables

/-- No identifier in the tables is not-a-number. -/
structure Comparable (tables : Tables) : Prop where
  securities : ∀ row ∈ tables.securities, row.id.IsComparable
  attributes : ∀ row ∈ tables.attributes, row.id.IsComparable
  facts : ∀ row ∈ tables.facts, row.attributeId.IsComparable ∧ row.securityId.IsComparable

/-- The tables with other identifiers in the same rows. -/
def renumber (tables : Tables) (renumbering : Renumbering) : Tables where
  securities := tables.securities.map renumbering.ofSecurity
  attributes := tables.attributes.map renumbering.ofAttribute
  facts := tables.facts.map renumbering.ofFact

variable {tables : Tables} {renumbering : Renumbering} {attributeId securityId : Id}

theorem renumber_security? (symbol : Text) :
    (tables.renumber renumbering).security? symbol =
      (tables.security? symbol).map renumbering.ofSecurity := by
  rw [security?, renumber, List.find?_map]
  rfl

theorem renumber_attribute? (name : Text) :
    (tables.renumber renumbering).attribute? name =
      (tables.attribute? name).map renumbering.ofAttribute := by
  rw [attribute?, renumber, List.find?_map]
  rfl

theorem renumber_fact? (comparable : tables.Comparable) (onAttribute : attributeId.IsComparable)
    (onSecurity : securityId.IsComparable) :
    (tables.renumber renumbering).fact? (renumbering.ofAttributeId attributeId)
        (renumbering.ofSecurityId securityId) =
      (tables.fact? attributeId securityId).map renumbering.ofFact := by
  rw [fact?, renumber, List.find?_map, fact?]
  congr 1
  refine List.find?_congr fun row member => ?_
  obtain ⟨ownAttribute, ownSecurity⟩ := comparable.facts row member
  exact renumbering.joins_ofFact ownAttribute ownSecurity onAttribute onSecurity

theorem comparable_of_security? {symbol : Text} {row : Security} (comparable : tables.Comparable)
    (found : tables.security? symbol = some row) : row.id.IsComparable :=
  comparable.securities row (List.mem_of_find?_eq_some found)

theorem comparable_of_attribute? {name : Text} {row : Attribute} (comparable : tables.Comparable)
    (found : tables.attribute? name = some row) : row.id.IsComparable :=
  comparable.attributes row (List.mem_of_find?_eq_some found)

theorem renumber_valueOf (renumbering : Renumbering) (comparable : tables.Comparable)
    (onSecurity : securityId.IsComparable) (name : Text) :
    (tables.renumber renumbering).store.valueOf (renumbering.ofSecurityId securityId) name =
      tables.store.valueOf securityId name := by
  simp only [Store.valueOf, store_attribute?, store_fact?, renumber_attribute?]
  cases named : tables.attribute? name with
  | none => rfl
  | some row =>
      have onAttribute := comparable_of_attribute? comparable named
      simp only [Option.map_some, Renumbering.ofAttribute,
        renumber_fact? comparable onAttribute onSecurity]
      cases tables.fact? row.id securityId <;> rfl

theorem renumber_securityNamed (named : Json) :
    (tables.renumber renumbering).store.securityNamed named =
      (tables.store.securityNamed named).map renumbering.ofSecurity := by
  cases named with
  | string symbol =>
      simp only [Store.securityNamed, store_security?, renumber_security?]
      cases tables.security? symbol <;> rfl
  | number value =>
      simp only [Store.securityNamed]
      split <;> rfl
  | _ => rfl

end Tables

namespace Document

variable {tables : Tables} {renumbering : Renumbering}

/-- Evaluation takes the same course, and ends at the renumbered row of the security. -/
theorem evaluate_renumbered (comparable : tables.Comparable) (document : Json) :
    evaluate (tables.renumber renumbering).store document =
      (evaluate tables.store document).map fun found =>
        (renumbering.ofSecurity found.1, found.2) := by
  cases document with
  | object fields =>
      simp only [evaluate]
      cases named : Fields.get? securityName fields with
      | none => rfl
      | some symbol =>
          simp only [Tables.renumber_securityNamed]
          cases looked : tables.store.securityNamed symbol with
          | error failure => rfl
          | ok security =>
              obtain ⟨_, _, known⟩ := Store.securityNamed_eq_ok.mp looked
              rw [Tables.store_security?] at known
              have isComparable := Tables.comparable_of_security? comparable known
              -- the names keep their values for this security, so nothing is to be excused
              have expression (node : Fields) := (evaluateExpression_sameUnless
                (fun name => .inl
                  (Tables.renumber_valueOf renumbering comparable isComparable name))
                depthLimit node).eq_of_never
              cases present : Fields.get? expressionName fields with
              | none => rfl
              | some operand =>
                  cases operand with
                  | object node =>
                      simp only [Except.map, bind, Except.bind, Renumbering.ofSecurity, expression]
                      cases evaluateExpression tables.store security.id depthLimit node <;> rfl
                  | _ => rfl
  | _ => rfl

/-- Identifiers are opaque: tables and the same tables renumbered give one result
to every document. -/
theorem execute_of_renumbered (renumbering : Renumbering) (comparable : tables.Comparable)
    (document : Json) :
    (tables.renumber renumbering).store.execute document = tables.store.execute document := by
  rw [Store.execute, Store.execute, evaluate_renumbered comparable document]
  cases evaluate tables.store document <;> rfl

/-- Rows whose identifiers are equal across kinds, with two facts that fit. -/
def mixedRows : Tables where
  securities := [⟨.number (.float (.ofDecimal false 1 0)), "ABC", []⟩,
    ⟨.number (.int 2), "BCD", []⟩]
  attributes := [⟨.number (.int 7), "price", []⟩]
  facts := [⟨.number (.int 2), .number (.int 7), .int 3⟩,
    ⟨.bool true, .number (.float (.ofDecimal false 7 0)), .int 10⟩,
    ⟨.number (.int 1), .number (.int 7), .int 20⟩]

/-- Securities one and two change places, and so do attributes seven and one. -/
def crossing : Renumbering :=
  ⟨.exchange 1 2, .exchange 7 1, Id.keepsEquality_exchange 1 2, Id.keepsEquality_exchange 7 1⟩

def crossedRows : Tables where
  securities := [⟨.number (.int 2), "ABC", []⟩, ⟨.number (.int 1), "BCD", []⟩]
  attributes := [⟨.number (.int 1), "price", []⟩]
  facts := [⟨.number (.int 1), .number (.int 1), .int 3⟩,
    ⟨.number (.int 2), .number (.int 1), .int 10⟩, ⟨.number (.int 2), .number (.int 1), .int 20⟩]

theorem renumber_mixedRows : mixedRows.renumber crossing = crossedRows := by
  have one : Id.exchange 1 2 (.number (.float (.ofDecimal false 1 0))) = .number (.int 2) := by
    decide +kernel
  have seven : Id.exchange 7 1 (.number (.float (.ofDecimal false 7 0))) = .number (.int 1) := by
    decide +kernel
  have securities : mixedRows.securities.map crossing.ofSecurity = crossedRows.securities := by
    simp only [mixedRows, List.map_cons, Renumbering.ofSecurity, crossing, one]
    rfl
  have facts : mixedRows.facts.map crossing.ofFact = crossedRows.facts := by
    simp only [mixedRows, List.map_cons, Renumbering.ofFact, crossing, seven]
    rfl
  rw [Tables.renumber, securities, facts]
  rfl

/-- The price less one. -/
def discounted : Json :=
  .object [("fn", .string "-"), ("a", .string "price"), ("b", .number (.int 1))]

def discountedDocument : Json :=
  .object [(securityName, .string "ABC"), (expressionName, discounted)]

theorem execute_mixedRows : mixedRows.store.execute discountedDocument = .ofValue (.int 9) := by
  have known : mixedRows.store.security? "ABC" =
      some ⟨.number (.float (.ofDecimal false 1 0)), "ABC", []⟩ :=
    (mixedRows.store_security? "ABC").trans rfl
  have price : mixedRows.store.valueOf (.number (.float (.ofDecimal false 1 0))) "price" =
      .ok (.int 10) :=
    Tables.store_valueOf_of_value? (by decide +kernel)
  have reads : discounted.formula? =
      some (.apply .subtract (.reference "price") (.literal (.int 1))) := by
    decide +kernel
  have subtracted : Operator.subtract.apply (.int 10) (.int 1) = .ok (.int 9) := rfl
  have computed : operandValue mixedRows.store (.number (.float (.ofDecimal false 1 0)))
      discounted = .ok (.int 9) := by
    rw [operandValue, evaluateOperand_of_formula? reads (by decide)]
    simp only [Formula.evaluate, price, subtracted, bind, Except.bind, Except.mapError]
  exact Store.execute_of_ok
    ((evaluate_of_known rfl known rfl).trans (congrArg (Except.map _) computed))

theorem execute_of_renumbered_crossing :
    mixedRows.Comparable ∧ mixedRows.renumber crossing = crossedRows ∧
      crossedRows.store.execute discountedDocument = mixedRows.store.execute discountedDocument ∧
      mixedRows.store.execute discountedDocument = .ofValue (.int 9) := by
  have comparable : mixedRows.Comparable :=
    ⟨by decide +kernel, by decide +kernel, by decide +kernel⟩
  have same := execute_of_renumbered crossing comparable discountedDocument
  rw [renumber_mixedRows] at same
  exact ⟨comparable, renumber_mixedRows, same, execute_mixedRows⟩

end Document

end Formulary
