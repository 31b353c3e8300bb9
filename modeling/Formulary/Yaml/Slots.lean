import Formulary.Yaml.Atom

namespace Formulary.Yaml

/-! # The order of a set of numbers

A set of numbers keeps them in a table of slots and shows them slot by slot.
The slot that a number asks for comes from its remainder by a prime, so it is
the same for all forms of one value.  Where that slot is taken, others follow
in a fixed series.  Small whole numbers so come out in ascending order.
-/

namespace Slots

/-- The bits of the prime, all of which are set. -/
def primeBits : Nat := 61

/-- The prime by which remainders are taken. -/
def prime : Nat := Nat.pow 2 primeBits - 1

/-- The remainder of a number of units of floats, as if it were divided by the
units in one.  Halving turns the bits of a remainder, so 1074 halvings are as
many doublings as fill up a multiple of `primeBits`. -/
def remainder (units : Nat) : Nat :=
  units * Nat.pow 2 (primeBits - 1074 % primeBits) % prime

/-- The code of a number, from its remainder and sign.  Infinities have a code
of their own, and minus one shares that of minus two. -/
def numberCode? : Number → Option Int
  | .float .nan => none
  | .float (.infinity negative) => some (if negative then -314159 else 314159)
  | number => do
    let units ← number.exactUnits?
    let code : Int := units.sign * remainder units.natAbs
    return if code = -1 then -2 else code

/-- The code of a member that is a number or a truth value, in 64 bits. -/
def code? (member : Atom) : Option Nat := do
  let code ← numberCode? (← member.number?)
  return (code % (Nat.pow 2 64 : Nat)).toNat

/-- The slots in a table for a number of members: eight for up to four, else the
least power of two of which less than half are taken. -/
def capacity (members : Nat) : Nat :=
  if members < 5 then 8 else Nat.pow 2 ((2 * members).log2 + 1)

abbrev Table := Array (Option Atom)

def isFree (table : Table) (slot : Nat) : Bool := table[slot]? = some none

/-- The slots that are tried behind one another from a slot on: it alone, or ten
where the table has as many. -/
def neighbours (size slot : Nat) : List Nat :=
  if slot + 9 < size then (List.range 10).map (slot + ·) else [slot]

/-- The first free slot of the series that starts at a slot.  What is left of
the code goes into each step of the series until it is used up; from then on
the series meets all slots. -/
def freeSlot? (table : Table) (fuel slot code : Nat) : Option Nat :=
  match fuel with
  | 0 => none
  | fuel + 1 =>
    match (neighbours table.size slot).find? (isFree table) with
    | some found => some found
    | none =>
      let left := code / 32
      freeSlot? table fuel ((slot * 5 + 1 + left) % table.size) left

/-- Put a member into the table.  A code of 64 bits is used up after thirteen steps. -/
def put (table : Table) (member : Atom) (code : Nat) : Table :=
  match freeSlot? table (table.size + 14) (code % table.size) code with
  | some slot => table.setIfInBounds slot (some member)
  | none => table

/-- The members of a set in the order in which it shows them.  A set that holds
other values than numbers keeps the order of the text. -/
def order (members : List Atom) : List Atom :=
  match members.mapM fun member => (code? member).map fun code => (member, code) with
  | none => members
  | some coded =>
    let empty : Table := Array.replicate (capacity coded.length) none
    let table := coded.foldl (fun table member => put table member.1 member.2) empty
    table.toList.filterMap id

end Slots

end Formulary.Yaml
