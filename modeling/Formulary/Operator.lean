import Formulary.Number

namespace Formulary

/-! # Operators

The four binary operators of expressions.
-/

inductive Operator where
  | add
  | subtract
  | multiply
  | divide
deriving DecidableEq, Repr

namespace Operator

def symbol : Operator → CodePoint
  | add => '+'
  | subtract => '-'
  | multiply => '*'
  | divide => '/'

/-- The operator that a text names, which is the one with exactly that symbol. -/
def ofText? (text : Text) : Option Operator :=
  [add, subtract, multiply, divide].find? fun operator => text = [operator.symbol]

def apply : Operator → Number → Number → Except RangeError Number
  | add => Number.add
  | subtract => Number.sub
  | multiply => Number.mul
  | divide => Number.div

end Operator

end Formulary
