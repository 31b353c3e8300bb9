import Std.Data.HashMap
import Formulary.Json

namespace Formulary

/-! # Stores

A store holds three tables: securities, attributes, and the facts that join
one of each to a number.  The rows are kept in order, repeated ones included.
An index is built over each table when the store is made; of several rows with
one key the first is found.
-/

/-- What joins the rows of different tables.  Identifiers are compared by their
value as numbers, a truth value counting as one or zero. -/
inductive Id where
  | number (value : Number)
  | bool (value : Bool)
deriving DecidableEq, Repr, Inhabited

namespace Id

/-- The value by which identifiers are compared; not-a-number has none. -/
def key? : Id → Option Number.Quantity
  | number value => value.quantity?
  | bool value => some (.whole (if value then 1 else 0))

end Id

structure Security where
  id : Id
  symbol : Text
  extra : Fields
deriving Repr

structure Attribute where
  id : Id
  name : Text
  extra : Fields
deriving Repr

structure Fact where
  securityId : Id
  attributeId : Id
  value : Number
deriving Repr

/-- The pair of values by which facts are found: attribute first. -/
abbrev FactKey := Number.Quantity × Number.Quantity

def FactKey.ofIds? (attributeId securityId : Id) : Option FactKey := do
  let attributeKey ← attributeId.key?
  let securityKey ← securityId.key?
  return (attributeKey, securityKey)

def Fact.key? (fact : Fact) : Option FactKey :=
  FactKey.ofIds? fact.attributeId fact.securityId

abbrev Index (κ α : Type) [BEq κ] [Hashable κ] := Std.HashMap κ α

namespace Index

variable {κ α : Type} [BEq κ] [Hashable κ]

/-- Enter a row unless its key is taken; a row without a key is never found. -/
def enter (key? : α → Option κ) (index : Index κ α) (row : α) : Index κ α :=
  match key? row with
  | some key => index.insertIfNew key row
  | none => index

def ofRows (key? : α → Option κ) (rows : List α) : Index κ α :=
  rows.foldl (enter key?) ∅

end Index

structure Store where
  securities : List Security
  attributes : List Attribute
  facts : List Fact
  bySymbol : Index Text Security
  byName : Index Text Attribute
  byKey : Index FactKey Fact

namespace Store

def ofRows (securities : List Security) (attributes : List Attribute) (facts : List Fact) :
    Store where
  securities := securities
  attributes := attributes
  facts := facts
  bySymbol := .ofRows (fun row => some row.symbol) securities
  byName := .ofRows (fun row => some row.name) attributes
  byKey := .ofRows Fact.key? facts

def security? (store : Store) (symbol : Text) : Option Security :=
  store.bySymbol[symbol]?

def attribute? (store : Store) (name : Text) : Option Attribute :=
  store.byName[name]?

def fact? (store : Store) (attributeId securityId : Id) : Option Fact := do
  let key ← FactKey.ofIds? attributeId securityId
  store.byKey[key]?

def summary (store : Store) : Text :=
  "StaticDataStore(securities=" ++ Numeral.ofNat store.securities.length ++
    ", attributes=" ++ Numeral.ofNat store.attributes.length ++
    ", facts=" ++ Numeral.ofNat store.facts.length ++ ")"

end Store

end Formulary
