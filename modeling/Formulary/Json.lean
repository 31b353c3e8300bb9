import Formulary.Number

namespace Formulary

/-! # JSON values

Objects keep their members in the order of the text.  A repeated name keeps
its first place and takes its last value, so the names of an object that was
read are distinct.
-/

inductive Json where
  | null
  | bool (value : Bool)
  | number (value : Number)
  | string (value : Text)
  | array (items : List Json)
  | object (fields : List (Text × Json))
deriving Inhabited, Repr

abbrev Fields := List (Text × Json)

namespace Fields

def get? (name : Text) : Fields → Option Json
  | [] => none
  | (key, value) :: rest => if key = name then some value else get? name rest

/-- Set a member: in its place if the name is present, else at the end. -/
def insert (name : Text) (value : Json) : Fields → Fields
  | [] => [(name, value)]
  | (key, old) :: rest =>
    if key = name then (key, value) :: rest else (key, old) :: insert name value rest

/-- The members that are left when members are set one after the other. -/
def ofMembers (members : List (Text × Json)) : Fields :=
  members.foldl (fun fields member => fields.insert member.1 member.2) []

def names (fields : Fields) : List Text :=
  fields.map Prod.fst

def without (known : List Text) (fields : Fields) : Fields :=
  fields.filter fun member => !known.contains member.1

def leastExtra? (known : List Text) (fields : Fields) : Option Text :=
  Text.least? (fields.without known).names

end Fields

namespace Json

def int (value : Int) : Json := number (.int value)

def text? : Json → Option Text
  | string value => some value
  | _ => none

mutual

/-- The number of containers around the innermost value. -/
def nesting : Json → Nat
  | array items => nestingOfItems items + 1
  | object fields => nestingOfFields fields + 1
  | _ => 0

def nestingOfItems : List Json → Nat
  | [] => 0
  | item :: rest => max item.nesting (nestingOfItems rest)

def nestingOfFields : List (Text × Json) → Nat
  | [] => 0
  | (_, value) :: rest => max value.nesting (nestingOfFields rest)

end

mutual

/-- The number of arrays directly inside each other from the value inward. -/
def arrayNesting : Json → Nat
  | array items => arrayNestingOfItems items + 1
  | _ => 0

def arrayNestingOfItems : List Json → Nat
  | [] => 0
  | item :: rest => max item.arrayNesting (arrayNestingOfItems rest)

end

end Json

end Formulary
