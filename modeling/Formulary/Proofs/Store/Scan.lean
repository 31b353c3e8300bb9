import Formulary.Evaluation
import Formulary.Proofs.Number.Comparison
import Std.Data.HashMap.Lemmas

namespace Formulary

/-! # Searching tables row by row

The indexes of a store find what a search of its tables from the first row
finds, identifiers being compared as numbers.
-/

namespace Index

variable {κ α : Type} [BEq κ] [Hashable κ] [LawfulBEq κ]

theorem getElem?_enter (key? : α → Option κ) (index : Index κ α) (row : α) (key : κ) :
    (enter key? index row)[key]? =
      index[key]?.or (if key? row == some key then some row else none) := by
  cases entered : key? row with
  | none => simp [enter, entered]
  | some own =>
      simp only [enter, entered, Std.HashMap.getElem?_insertIfNew,
        Std.HashMap.mem_iff_isSome_getElem?]
      by_cases same : own = key
      · subst same
        cases index[own]? <;> simp
      · simp [same]

theorem getElem?_foldl_enter (key? : α → Option κ) (rows : List α) (index : Index κ α) (key : κ) :
    (rows.foldl (enter key?) index)[key]? =
      index[key]?.or (rows.find? fun row => key? row == some key) := by
  induction rows generalizing index with
  | nil => simp
  | cons row rest ih =>
      rw [List.foldl_cons, ih, getElem?_enter, Option.or_assoc, List.find?_cons]
      cases key? row == some key <;> simp

/-- The index over a table finds the first row of a key. -/
theorem getElem?_ofRows (key? : α → Option κ) (rows : List α) (key : κ) :
    (ofRows key? rows)[key]? = rows.find? fun row => key? row == some key := by
  rw [ofRows, getElem?_foldl_enter]
  simp

end Index

namespace Id

def toNumber : Id → Number
  | number value => value
  | bool value => .int (if value then 1 else 0)

def equal (left right : Id) : Bool :=
  left.toNumber.equal right.toNumber

theorem key?_eq (id : Id) : id.key? = id.toNumber.quantity? := by
  cases id <;> rfl

theorem equal_iff {left right : Id} :
    left.equal right = true ↔ ∃ key, left.key? = some key ∧ right.key? = some key := by
  rw [equal, Number.equal_iff, key?_eq, key?_eq]

end Id

theorem FactKey.ofIds?_eq_some {attributeId securityId : Id} {key : FactKey} :
    FactKey.ofIds? attributeId securityId = some key ↔
      attributeId.key? = some key.1 ∧ securityId.key? = some key.2 := by
  obtain ⟨attributeKey, securityKey⟩ := key
  simp [FactKey.ofIds?, bind, Option.bind_eq_some_iff]

/-- Does a row join this attribute and this security? -/
def Fact.joins (row : Fact) (attributeId securityId : Id) : Bool :=
  row.attributeId.equal attributeId && row.securityId.equal securityId

theorem Fact.joins_iff {row : Fact} {attributeId securityId : Id} :
    row.joins attributeId securityId = true ↔
      ∃ key, FactKey.ofIds? attributeId securityId = some key ∧ row.key? = some key := by
  simp only [joins, Bool.and_eq_true, Id.equal_iff, key?, FactKey.ofIds?_eq_some]
  constructor
  · intro given
    obtain ⟨⟨attributeKey, own, wanted⟩, securityKey, ownSecurity, wantedSecurity⟩ := given
    exact ⟨(attributeKey, securityKey), ⟨wanted, wantedSecurity⟩, own, ownSecurity⟩
  · intro given
    obtain ⟨key, ⟨wanted, wantedSecurity⟩, own, ownSecurity⟩ := given
    exact ⟨⟨key.1, own, wanted⟩, key.2, ownSecurity, wantedSecurity⟩

structure Tables where
  securities : List Security
  attributes : List Attribute
  facts : List Fact

namespace Tables

def store (tables : Tables) : Store :=
  .ofRows tables.securities tables.attributes tables.facts

def security? (tables : Tables) (symbol : Text) : Option Security :=
  tables.securities.find? fun row => row.symbol = symbol

def attribute? (tables : Tables) (name : Text) : Option Attribute :=
  tables.attributes.find? fun row => row.name = name

def fact? (tables : Tables) (attributeId securityId : Id) : Option Fact :=
  tables.facts.find? fun row => row.joins attributeId securityId

def value? (tables : Tables) (securityId : Id) (name : Text) : Option Number := do
  let found ← tables.attribute? name
  let fact ← tables.fact? found.id securityId
  return fact.value

variable (tables : Tables)

theorem store_security? (symbol : Text) :
    tables.store.security? symbol = tables.security? symbol := by
  have same (row : Security) : (some row.symbol == some symbol) = decide (row.symbol = symbol) := by
    rw [Bool.eq_iff_iff]
    simp
  simp only [Store.security?, store, Store.ofRows, Index.getElem?_ofRows, same, security?]

theorem store_attribute? (name : Text) : tables.store.attribute? name = tables.attribute? name := by
  have same (row : Attribute) : (some row.name == some name) = decide (row.name = name) := by
    rw [Bool.eq_iff_iff]
    simp
  simp only [Store.attribute?, store, Store.ofRows, Index.getElem?_ofRows, same, attribute?]

theorem store_fact? (attributeId securityId : Id) :
    tables.store.fact? attributeId securityId = tables.fact? attributeId securityId := by
  cases wanted : FactKey.ofIds? attributeId securityId with
  | none =>
      have nothing : tables.fact? attributeId securityId = none := by
        simp [fact?, Fact.joins_iff, wanted]
      simp only [Store.fact?, wanted, nothing, bind, Option.bind_none]
  | some key =>
      have same (row : Fact) : (row.key? == some key) = row.joins attributeId securityId := by
        rw [Bool.eq_iff_iff, Fact.joins_iff, wanted]
        simp
      simp only [Store.fact?, wanted, bind, Option.bind_some, store, Store.ofRows,
        Index.getElem?_ofRows, same, fact?]

end Tables

end Formulary
