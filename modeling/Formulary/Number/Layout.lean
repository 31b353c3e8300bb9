import Formulary.Number.Decimal

namespace Formulary

/-! # Layouts of decimals

A layout says how the digits of a non-zero decimal are put on the line: for
which magnitudes the point stands in its place, and how an exponent is written
otherwise.
-/

structure Layout where
  /-- The least count of places before the point that is written positionally. -/
  leastPlaces : Int
  /-- The greatest count of places before the point that is written positionally. -/
  greatestPlaces : Int
  /-- What follows a whole number in positional form. -/
  wholeMark : Text
  /-- The least number of digits in an exponent. -/
  exponentWidth : Nat

namespace Layout

def zeros (count : Nat) : Text :=
  List.replicate count (.scalar '0')

def positional (layout : Layout) (digits : List Digit) (exponent : Int) : Text :=
  let places := digits.length + exponent
  if 0 ≤ exponent then
    Numeral.write digits ++ zeros exponent.natAbs ++ layout.wholeMark
  else if 0 < places then
    Numeral.write (digits.take places.natAbs) ++ "." ++ Numeral.write (digits.drop places.natAbs)
  else
    "0." ++ zeros places.natAbs ++ Numeral.write digits

/-- One digit before the point, and the power of ten that it counts. -/
def scientific (layout : Layout) (digits : List Digit) (exponent : Int) : Text :=
  let power := digits.length + exponent - 1
  let mantissa :=
    match digits with
    | [] => []
    | [digit] => Numeral.write [digit]
    | digit :: rest => Numeral.write [digit] ++ "." ++ Numeral.write rest
  mantissa ++ (if power < 0 then "e-" else "e+" : Text) ++
    Numeral.padded layout.exponentWidth power.natAbs

def write (layout : Layout) (decimal : Decimal) : Text :=
  let places := decimal.digits.length + decimal.exponent
  let body :=
    if layout.leastPlaces ≤ places ∧ places ≤ layout.greatestPlaces then
      layout.positional decimal.digits decimal.exponent
    else
      layout.scientific decimal.digits decimal.exponent
  if decimal.negative then .scalar '-' :: body else body

/-- In values that can be read back, whole floats keep a zero after the point,
and exponents have two digits. -/
def literal : Layout := ⟨-3, 16, ".0", 2⟩

/-- In text that a browser would show, whole numbers have no point up to
twenty-one places, and exponents are as short as they can be. -/
def browser : Layout := ⟨-5, 21, "", 1⟩

end Layout

end Formulary
