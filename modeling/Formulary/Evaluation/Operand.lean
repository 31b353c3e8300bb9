import Formulary.Json
import Formulary.Operator

namespace Formulary

/-! # Operands

What stands beside an operator: a number, the name of an attribute, or an
expression of its own.
-/

inductive Operand where
  | literal (value : Number)
  | reference (name : Text)
  | nested (node : Fields)
deriving Repr

inductive Unsupported where
  | null
  | bool
  | array
deriving DecidableEq, Repr

def Unsupported.message : Unsupported → Text
  | null => "unsupported operand type: NoneType"
  | bool => "unsupported operand type: bool"
  | array => "unsupported operand type: list"

def Operand.ofJson : Json → Except Unsupported Operand
  | .object node => .ok (.nested node)
  | .string name => .ok (.reference name)
  | .number value => .ok (.literal value)
  | .null => .error .null
  | .bool _ => .error .bool
  | .array _ => .error .array

end Formulary
