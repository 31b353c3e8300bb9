import Formulary.Store

namespace Formulary.Store

/-! # The built-in store

The tables that documents are evaluated against when no others are named.
-/

private def security (id : Int) (symbol company : String) : Security :=
  ⟨.number (.int id), symbol, [("name", .string company)]⟩

private def attributeNamed (id : Int) (name : String) : Attribute :=
  ⟨.number (.int id), name, []⟩

private def fact (securityId attributeId : Int) (value : Number) : Fact :=
  ⟨.number (.int securityId), .number (.int attributeId), value⟩

def builtInSecurities : List Security := [
  security 1 "ABC" "Alpha Beta Corp",
  security 2 "BCD" "Bravo Charlie Holdings",
  security 3 "CDE" "Charlie Delta Energy",
  security 4 "DEF" "Delta Echo Foods"]

def builtInAttributes : List Attribute := [
  attributeNamed 1 "price",
  attributeNamed 2 "eps",
  attributeNamed 3 "dps",
  attributeNamed 4 "sales",
  attributeNamed 5 "ebitda",
  attributeNamed 6 "free_cash_flow",
  attributeNamed 7 "assets",
  attributeNamed 8 "liabilities",
  attributeNamed 9 "debt",
  attributeNamed 10 "shares"]

/-- Security, attribute, value. -/
def builtInFacts : List Fact := [
  fact 1 1 (.int 10),
  fact 1 2 (.int 2),
  fact 1 4 (.int 4),
  fact 1 5 (.int 6),
  fact 1 7 (.int 20),
  fact 1 8 (.int 12),
  fact 1 10 (.int 5),
  fact 2 1 (.int 1),
  fact 2 2 (.int 2),
  fact 2 3 (.float (.ofDecimal false 25 (-2))),
  fact 2 4 (.int 7),
  fact 2 9 (.int 0),
  fact 3 1 (.int 15),
  fact 3 2 (.int 3),
  fact 3 7 (.int 10),
  fact 3 8 (.int 6),
  fact 3 10 (.int 1)]

def builtIn : Store :=
  .ofRows builtInSecurities builtInAttributes builtInFacts

end Formulary.Store
