import Formulary.Json.Quoted

namespace Formulary.Json

/-! # Printing JSON

A dump puts each item and member on a line of its own, indented by one blank
for each container around it, and shows numbers as a browser does.  A line is
ASCII without line breaks, and shows numbers so that they keep their kind.
-/

def newLine (depth : Nat) : Text :=
  .scalar '\n' :: List.replicate depth (.scalar ' ')

/-- A number in a dump; infinities and not-a-number have no JSON and become null. -/
def dumpNumber (number : Number) : Text :=
  match number with
  | .float (.finite ..) => number.browser
  | .float _ => "null"
  | .int value => if (Binary64.ofInt? value).isSome then number.browser else "null"

mutual

/-- The dump of a value inside a number of containers. -/
def dump (depth : Nat) : Json → Text
  | null => "null"
  | bool value => if value then "true" else "false"
  | number value => dumpNumber value
  | string value => quoted value
  | array [] => "[]"
  | array (item :: rest) =>
    .scalar '[' :: newLine (depth + 1) ++ dump (depth + 1) item ++ dumpItems (depth + 1) rest ++
      newLine depth ++ "]"
  | object [] => "\x7b\x7d"
  | object ((name, value) :: rest) =>
    .scalar '{' :: newLine (depth + 1) ++ quoted name ++ ": " ++ dump (depth + 1) value ++
      dumpMembers (depth + 1) rest ++ newLine depth ++ "\x7d"

def dumpItems (depth : Nat) : List Json → Text
  | [] => []
  | item :: rest => .scalar ',' :: newLine depth ++ dump depth item ++ dumpItems depth rest

def dumpMembers (depth : Nat) : List (Text × Json) → Text
  | [] => []
  | (name, value) :: rest =>
    .scalar ',' :: newLine depth ++ quoted name ++ ": " ++ dump depth value ++
      dumpMembers depth rest

end

mutual

/-- A value on one line of ASCII. -/
def line : Json → Text
  | null => "null"
  | bool value => if value then "true" else "false"
  | number value => value.literal
  | string value => quotedAscii value
  | array [] => "[]"
  | array (item :: rest) => .scalar '[' :: line item ++ lineItems rest ++ "]"
  | object [] => "\x7b\x7d"
  | object ((name, value) :: rest) =>
    .scalar '{' :: quotedAscii name ++ ": " ++ line value ++ lineMembers rest ++ "\x7d"

def lineItems : List Json → Text
  | [] => []
  | item :: rest => ", " ++ line item ++ lineItems rest

def lineMembers : List (Text × Json) → Text
  | [] => []
  | (name, value) :: rest =>
    ", " ++ quotedAscii name ++ ": " ++ line value ++ lineMembers rest

end

mutual

/-- A value as text in the middle of a sentence: strings bare, arrays as their
items with commas between them, and objects without their members. -/
def inSentence : Json → Text
  | null => "null"
  | bool value => if value then "true" else "false"
  | number value => value.browser
  | string value => value
  | array items => inSentenceItems items
  | object _ => "[object Object]"

/-- The items of an array with commas between them; a null item is empty. -/
def inSentenceItems : List Json → Text
  | [] => []
  | [item] => inSentenceItem item
  | item :: rest => inSentenceItem item ++ "," ++ inSentenceItems rest

def inSentenceItem : Json → Text
  | null => []
  | item => inSentence item

end

end Formulary.Json
