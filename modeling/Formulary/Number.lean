import Formulary.Number.Layout

namespace Formulary

/-! # Numbers

A number is an integer of any size or a float.  Integers stay exact under
addition, subtraction and multiplication; where an integer meets a float, or
is divided, it takes part as a float, and one beyond the range of floats is an
error.
-/

inductive Number where
  | int (value : Int)
  | float (value : Binary64)
deriving DecidableEq, Repr, Inhabited

/-- An integer result or operand is beyond the range of floats. -/
inductive RangeError where
  | conversion
  | quotient
deriving DecidableEq, Repr

namespace RangeError

def message : RangeError → String
  | conversion => "int too large to convert to float"
  | quotient => "integer division result too large for a float"

end RangeError

namespace Number

def floatOfInt (value : Int) : Except RangeError Binary64 :=
  match Binary64.ofInt? value with
  | some rounded => .ok rounded
  | none => .error .conversion

def toFloat : Number → Except RangeError Binary64
  | int value => floatOfInt value
  | float value => .ok value

/-- An operation that is exact on two integers and rounded on all other pairs. -/
def combine (exact : Int → Int → Int) (rounded : Binary64 → Binary64 → Binary64) :
    Number → Number → Except RangeError Number
  | int left, int right => .ok (int (exact left right))
  | left, right => do
    let left ← left.toFloat
    let right ← right.toFloat
    return float (rounded left right)

def add : Number → Number → Except RangeError Number :=
  combine (· + ·) Binary64.add

def sub : Number → Number → Except RangeError Number :=
  combine (· - ·) Binary64.sub

def mul : Number → Number → Except RangeError Number :=
  combine (· * ·) Binary64.mul

/-- The quotient of two integers, rounded once.  By zero it is not a number or
an infinity, for which the dividend has to be in the range of floats. -/
def divInt (left right : Int) : Except RangeError Binary64 :=
  if right = 0 then
    if left = 0 then .ok .nan
    else (floatOfInt left).map fun _ => .infinity (left < 0)
  else
    match Binary64.ofQuotient? ((left < 0) != (right < 0)) left.natAbs right.natAbs with
    | some quotient => .ok quotient
    | none => .error .quotient

/-- Division never fails for a zero divisor as such. -/
def div : Number → Number → Except RangeError Number
  | int left, int right => (divInt left right).map float
  | left, right => do
    let left ← left.toFloat
    let right ← right.toFloat
    return float (left.div right)

/-- Neither zero nor not-a-number.  The test is made on floats, so it fails for
an integer beyond their range. -/
def isTruthy : Number → Except RangeError Bool
  | int value =>
    if value = 0 then .ok false else (floatOfInt value).map fun _ => true
  | float value => .ok (!value.isZero && !value.isNaN)

/-- Is the number one that has no decimal form? -/
def isFinite : Number → Bool
  | int _ => true
  | float value => value.isFinite

/-- The value of a number as an exact quantity: equal for an integer and a
float of the same value, absent for not-a-number. -/
inductive Quantity where
  | whole (value : Int)
  | broken (value : Binary64)
deriving DecidableEq, Hashable, Repr

def quantity? : Number → Option Quantity
  | int value => some (.whole value)
  | float .nan => none
  | float value =>
    match value.toInt? with
    | some whole => some (.whole whole)
    | none => some (.broken value)

def sameValue (left right : Number) : Bool :=
  match left.quantity?, right.quantity? with
  | some left, some right => left = right
  | _, _ => false

/-- The value of a number in units of floats, infinities aside. -/
def exactUnits? : Number → Option Int
  | int value => some (value * Binary64.one)
  | float (.finite negative rank) => some (Binary64.signedUnits negative rank)
  | float _ => none

/-- Is the value of a number less than that of another?  Not-a-number is
neither less nor greater. -/
def before (left right : Number) : Bool :=
  match left, right with
  | float .nan, _ => false
  | _, float .nan => false
  | float (.infinity true), right => right ≠ float (.infinity true)
  | float (.infinity false), _ => false
  | left, float (.infinity false) => left ≠ float (.infinity false)
  | _, float (.infinity true) => false
  | left, right =>
    match left.exactUnits?, right.exactUnits? with
    | some left, some right => left < right
    | _, _ => false

def writeFinite (layout : Layout) (negative : Bool) (rank : Fin Binary64.infinityRank) : Text :=
  layout.write (Binary64.shortest negative rank)

/-- A float in the form that is read back as the same float. -/
def floatLiteral : Binary64 → Text
  | .nan => "nan"
  | .infinity negative => if negative then "-inf" else "inf"
  | .finite negative rank =>
    if rank.val = 0 then if negative then "-0.0" else "0.0"
    else writeFinite .literal negative rank

/-- A number in the form that keeps its kind. -/
def literal : Number → Text
  | int value => Numeral.ofInt value
  | float value => floatLiteral value

/-- A float as a browser shows it. -/
def floatBrowser : Binary64 → Text
  | .nan => "NaN"
  | .infinity negative => if negative then "-Infinity" else "Infinity"
  | .finite negative rank =>
    if rank.val = 0 then "0" else writeFinite .browser negative rank

/-- A number as a browser shows it; long integers are shown as floats. -/
def browser : Number → Text
  | int value =>
    if value.natAbs < Nat.pow 10 21 then Numeral.ofInt value
    else
      match Binary64.ofInt? value with
      | some rounded => floatBrowser rounded
      | none => floatBrowser (.infinity (value < 0))
  | float value => floatBrowser value

/-- A number as a result line shows it: whole floats with all their digits. -/
def resultText : Number → Text
  | int value => Numeral.ofInt value
  | float .nan => "NaN"
  | float (.infinity negative) => if negative then "-Infinity" else "Infinity"
  | float value =>
    match value.toInt? with
    | some whole => Numeral.ofInt whole
    | none => floatLiteral value

def digitLimit : Nat := 4300

def isPrintable : Number → Bool
  | int value => value.natAbs < Nat.pow 10 digitLimit
  | float _ => true

end Number

end Formulary
