import Formulary.Json
import Formulary.Text.Literal

namespace Formulary.Json

/-! # Value literals

Messages about tables show values on one line in a form that keeps the kinds
of numbers apart and marks every string with quotes.
-/

mutual

/-- A value as messages show it. -/
def literal : Json → Text
  | null => "None"
  | bool value => if value then "True" else "False"
  | number value => value.literal
  | string value => Text.literal value
  | array [] => "[]"
  | array (item :: rest) => .scalar '[' :: literal item ++ literalItems rest ++ "]"
  | object [] => "\x7b\x7d"
  | object ((name, value) :: rest) =>
    .scalar '{' :: Text.literal name ++ ": " ++ literal value ++ literalMembers rest ++ "\x7d"

def literalItems : List Json → Text
  | [] => []
  | item :: rest => ", " ++ literal item ++ literalItems rest

def literalMembers : List (Text × Json) → Text
  | [] => []
  | (name, value) :: rest =>
    ", " ++ Text.literal name ++ ": " ++ literal value ++ literalMembers rest

end

end Formulary.Json
