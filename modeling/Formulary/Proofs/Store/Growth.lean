import Mathlib.Data.List.Find
import Mathlib.Data.List.Pairwise
import Formulary.Proofs.Store.Scan

namespace Formulary

/-! # Longer and reordered tables

A row at the end of a table never takes the place of an earlier one, so what was
found is found still.  Where no two rows of a table share their key, the order
of the rows makes no difference to what is found.
-/

/-- What is found in the smaller store is found in the larger one. -/
structure Store.Extends (smaller larger : Store) : Prop where
  securities : ∀ symbol row, smaller.security? symbol = some row →
    larger.security? symbol = some row
  attributes : ∀ name row, smaller.attribute? name = some row → larger.attribute? name = some row
  facts : ∀ attributeId securityId row, smaller.fact? attributeId securityId = some row →
    larger.fact? attributeId securityId = some row

theorem Fact.joins_of_joins {row other : Fact} {attributeId securityId : Id}
    (first : row.joins attributeId securityId = true)
    (second : other.joins attributeId securityId = true) :
    row.joins other.attributeId other.securityId = true := by
  obtain ⟨key, wanted, own⟩ := Fact.joins_iff.mp first
  obtain ⟨same, wanted', found⟩ := Fact.joins_iff.mp second
  cases wanted.symm.trans wanted'
  exact Fact.joins_iff.mpr ⟨key, found, own⟩

namespace Tables

def append (tables more : Tables) : Tables where
  securities := tables.securities ++ more.securities
  attributes := tables.attributes ++ more.attributes
  facts := tables.facts ++ more.facts

structure Permuted (tables others : Tables) : Prop where
  securities : tables.securities.Perm others.securities
  attributes : tables.attributes.Perm others.attributes
  facts : tables.facts.Perm others.facts

/-- No two rows of a table share the key by which they are found. -/
structure DistinctKeys (tables : Tables) : Prop where
  symbols : tables.securities.Pairwise fun row other => row.symbol ≠ other.symbol
  names : tables.attributes.Pairwise fun row other => row.name ≠ other.name
  pairs : tables.facts.Pairwise fun row other =>
    row.joins other.attributeId other.securityId = false

/-- A search has the same result in any order of the rows if at most one row is sought. -/
theorem find?_perm {α : Type} {rows others : List α} {sought : α → Bool}
    (atMostOne : rows.Pairwise fun row other => ¬ (sought row = true ∧ sought other = true))
    (same : rows.Perm others) : others.find? sought = rows.find? sought := by
  refine (List.find?_eq_find?_of_perm same ?_).symm
  rintro row ⟨member, isSought⟩ other ⟨otherMember, otherSought⟩
  by_contra different
  have symmetric : Std.Symm fun row other : α => ¬ (sought row = true ∧ sought other = true) :=
    ⟨fun _ _ apart both => apart both.symm⟩
  exact atMostOne.forall member otherMember different ⟨isSought, otherSought⟩

variable {tables others : Tables}

theorem store_extends_append (tables more : Tables) :
    tables.store.Extends (tables.append more).store where
  securities := by
    intro symbol row found
    rw [store_security?, security?] at found ⊢
    rw [append, List.find?_append, found, Option.some_or]
  attributes := by
    intro name row found
    rw [store_attribute?, attribute?] at found ⊢
    rw [append, List.find?_append, found, Option.some_or]
  facts := by
    intro attributeId securityId row found
    rw [store_fact?, fact?] at found ⊢
    rw [append, List.find?_append, found, Option.some_or]

theorem Permuted.store_security? (same : tables.Permuted others) (distinct : tables.DistinctKeys)
    (symbol : Text) : others.store.security? symbol = tables.store.security? symbol := by
  rw [Tables.store_security?, Tables.store_security?]
  refine find?_perm (distinct.symbols.imp fun apart both => ?_) same.securities
  simp only [decide_eq_true_eq] at both
  exact apart (both.1.trans both.2.symm)

theorem Permuted.store_attribute? (same : tables.Permuted others)
    (distinct : tables.DistinctKeys) (name : Text) :
    others.store.attribute? name = tables.store.attribute? name := by
  rw [Tables.store_attribute?, Tables.store_attribute?]
  refine find?_perm (distinct.names.imp fun apart both => ?_) same.attributes
  simp only [decide_eq_true_eq] at both
  exact apart (both.1.trans both.2.symm)

theorem Permuted.store_fact? (same : tables.Permuted others) (distinct : tables.DistinctKeys)
    (attributeId securityId : Id) :
    others.store.fact? attributeId securityId = tables.store.fact? attributeId securityId := by
  rw [Tables.store_fact?, Tables.store_fact?]
  refine find?_perm (distinct.pairs.imp fun apart both => ?_) same.facts
  rw [Fact.joins_of_joins both.1 both.2] at apart
  cases apart

end Tables

end Formulary
