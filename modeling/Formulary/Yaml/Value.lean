import Formulary.Yaml.Atom

namespace Formulary.Yaml

/-! # Values as trees

A value with all its parts, as messages show it.  Where a collection is inside
itself the tree ends with a mark.
-/

inductive Value where
  | atom (value : Atom)
  | sequence (items : List Value)
  | mapping (members : List (Atom × Value))
  | set (members : List Atom)
  | pairs (pairs : List (Value × Value))
  /-- A collection inside itself. -/
  | cycle (isMapping : Bool)
deriving Inhabited, Repr

namespace Value

mutual

def literal : Value → Text
  | atom value => value.literal
  | sequence [] => "[]"
  | sequence (item :: rest) => .scalar '[' :: literal item ++ literalItems rest ++ "]"
  | mapping [] => "\x7b\x7d"
  | mapping ((key, value) :: rest) =>
    .scalar '{' :: key.literal ++ ": " ++ literal value ++ literalMembers rest ++ "\x7d"
  | set [] => "set()"
  | set members => .scalar '{' :: Atom.literals members ++ "\x7d"
  | pairs [] => "[]"
  | pairs ((key, value) :: rest) =>
    "[(" ++ literal key ++ ", " ++ literal value ++ ")" ++ literalPairs rest ++ "]"
  | cycle isMapping => if isMapping then "\x7b...\x7d" else "[...]"

def literalItems : List Value → Text
  | [] => []
  | item :: rest => ", " ++ literal item ++ literalItems rest

def literalMembers : List (Atom × Value) → Text
  | [] => []
  | (key, value) :: rest =>
    ", " ++ key.literal ++ ": " ++ literal value ++ literalMembers rest

def literalPairs : List (Value × Value) → Text
  | [] => []
  | (key, value) :: rest =>
    ", (" ++ literal key ++ ", " ++ literal value ++ ")" ++ literalPairs rest

end

/-- The greatest number of values that can be shown inside each other. -/
def levelLimit : Nat := 992

mutual

/-- The first thing that keeps a value from being shown where `room` values can
still stand inside each other.  A set is shown by a list of its members, and a
pair is a value of its own. -/
def fault? (room : Nat) (value : Value) : Option Fatal :=
  if room = 0 then some .nestedTooDeeply
  else
    match value with
    | atom value => value.fault? room
    | sequence items => faultOfItems? (room - 1) items
    | mapping members => faultOfMembers? (room - 1) members
    | set members => members.findSome? (Atom.fault? (room - 2))
    | pairs found => faultOfPairs? (room - 2) found
    | cycle _ => none

def faultOfItems? (room : Nat) : List Value → Option Fatal
  | [] => none
  | item :: rest => (fault? room item).or (faultOfItems? room rest)

def faultOfMembers? (room : Nat) : List (Atom × Value) → Option Fatal
  | [] => none
  | (key, value) :: rest =>
    (key.fault? room).or ((fault? room value).or (faultOfMembers? room rest))

def faultOfPairs? (room : Nat) : List (Value × Value) → Option Fatal
  | [] => none
  | (key, value) :: rest =>
    (fault? room key).or ((fault? room value).or (faultOfPairs? room rest))

end

end Value

end Formulary.Yaml
