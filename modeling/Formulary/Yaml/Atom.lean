import Formulary.Fatal
import Formulary.Number
import Formulary.Text.Literal
import Formulary.Yaml.Timestamp

namespace Formulary.Yaml

/-! # Values without parts

What a scalar in settings decodes to.  Only these values can be keys of
mappings and members of sets.
-/

inductive Atom where
  | null
  | bool (value : Bool)
  | number (value : Number)
  /-- Not a number.  The one that has a word of its own is always the same; one
  that is the outcome of a calculation belongs to the node it comes from. -/
  | nan (node : Option Nat)
  | text (value : Text)
  | bytes (value : List UInt8)
  | time (value : Timestamp)
deriving DecidableEq, Repr, Inhabited

namespace Atom

private def byteLiteral (quote : CodePoint) (byte : UInt8) : Text :=
  let point := CodePoint.ofUnit byte.toNat
  if point = quote ∨ point = .scalar '\\' then [.scalar '\\', point]
  else if point = .scalar '\n' then "\\n"
  else if point = .scalar '\r' then "\\r"
  else if point = .scalar '\t' then "\\t"
  else if 0x20 ≤ byte.toNat ∧ byte.toNat < 0x7F then [point]
  else "\\x" ++ Numeral.hex 2 byte.toNat

def bytesLiteral (bytes : List UInt8) : Text :=
  let quote : CodePoint :=
    if bytes.contains 39 && !bytes.contains 34 then .scalar '"' else .scalar '\''
  .scalar 'b' :: quote :: bytes.flatMap (byteLiteral quote) ++ [quote]

def literal : Atom → Text
  | null => "None"
  | bool value => if value then "True" else "False"
  | number value => value.literal
  | nan _ => "nan"
  | text value => Text.literal value
  | bytes value => bytesLiteral value
  | time (.date value) => value.literal
  | time (.moment value) => value.literal

def literals (atoms : List Atom) : Text :=
  Text.join ", " (atoms.map literal)

def listLiteral (atoms : List Atom) : Text :=
  "[" ++ literals atoms ++ "]"

/-- Can a message show the value?  It cannot show an integer that is too long. -/
def isPrintable : Atom → Bool
  | number value => value.isPrintable
  | _ => true

def levels : Atom → Nat
  | time (.moment value) => value.levels
  | _ => 1

/-- What keeps a value from being shown where `room` values can still stand
inside each other. -/
def fault? (room : Nat) (atom : Atom) : Option Fatal :=
  if room < atom.levels then some .nestedTooDeeply
  else if atom.isPrintable then none
  else some .unprintable

/-- The number that a value is compared by, if it is a number or a truth value. -/
def number? : Atom → Option Number
  | number value => some value
  | nan _ => some (.float .nan)
  | bool value => some (.int (if value then 1 else 0))
  | _ => none

/-- Are two keys the same?  Numbers are compared by their values, truth values
being zero and one, and moments by their instants. -/
def same (left right : Atom) : Bool :=
  match left, right with
  | null, null => true
  | nan left, nan right => left = right
  | text left, text right => left = right
  | bytes left, bytes right => left = right
  | time (.moment left), time (.moment right) =>
    left.offset.isSome = right.offset.isSome && left.instant = right.instant
  | time left, time right => left = right
  | left, right =>
    match left.number?, right.number? with
    | some left, some right => left.sameValue right
    | _, _ => false

def lookup? {α : Type} (key : Atom) : List (Atom × α) → Option α
  | [] => none
  | (found, value) :: rest => if same found key then some value else lookup? key rest

/-- Set the value under a key: in its place if the key is present, else at the end. -/
def insert {α : Type} (key : Atom) (value : α) : List (Atom × α) → List (Atom × α)
  | [] => [(key, value)]
  | (found, old) :: rest =>
    if same found key then (found, value) :: rest else (found, old) :: insert key value rest

/-- Does one key come before another?  Keys of different kinds have no order. -/
def before? (left right : Atom) : Option Bool :=
  match left, right with
  | text left, text right => some (Text.before left right)
  | bytes left, bytes right =>
    some (Text.before (left.map fun byte => .ofUnit byte.toNat)
      (right.map fun byte => .ofUnit byte.toNat))
  | time (.date left), time (.date right) =>
    some (left.rank < right.rank)
  | time (.moment left), time (.moment right) =>
    if left.offset.isSome = right.offset.isSome then some (left.instant < right.instant) else none
  | left, right =>
    match left.number?, right.number? with
    | some left, some right => some (left.before right)
    | _, _ => none

/-- Put a key at its place among sorted keys, in front of those that are not before it. -/
def place (key : Atom) : List Atom → Option (List Atom)
  | [] => some [key]
  | first :: rest => do
    if ← before? first key then return first :: (← place key rest)
    else return key :: first :: rest

def sorted? : List Atom → Option (List Atom)
  | [] => some []
  | [key] => some [key]
  | key :: rest => do place key (← sorted? rest)

end Atom

end Formulary.Yaml
