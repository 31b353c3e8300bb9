import Formulary.Number.Numeral
import Formulary.Number.Binary64

namespace Formulary

/-! # Decimals of floats

A decimal is a sign, digits, and the power of ten of the last digit.  The
shortest decimal of a float has the fewest digits that are read back as that
float, and among those it is the one nearest to the float.
-/

structure Decimal where
  negative : Bool
  digits : List Digit
  exponent : Int
deriving DecidableEq, Repr

namespace Decimal

def normalize (decimal : Decimal) : Decimal :=
  let kept := (decimal.digits.reverse.dropWhile (·.val = 0)).reverse
  { decimal with
    digits := kept
    exponent := decimal.exponent + (decimal.digits.length - kept.length : Nat) }

end Decimal

namespace Binary64

/-- Is a multiple of a power of ten read as the magnitude of this rank? -/
def readsAs (rank : Fin infinityRank) (coefficient : Nat) (exponent : Int) : Bool :=
  ofDecimal false coefficient exponent = finite false rank

/-- The magnitude in halves of a power of ten, as a quotient. -/
def halvesOf (rank : Nat) (exponent : Int) : Nat × Nat :=
  if 0 ≤ exponent then (2 * units rank, one * Nat.pow 10 exponent.natAbs)
  else (2 * units rank * Nat.pow 10 exponent.natAbs, one)

/-- The multiple of a power of ten nearest to a magnitude among the two around
it that are read as the magnitude; the even one if both are equally near. -/
def gridPoint? (rank : Fin infinityRank) (exponent : Int) : Option Nat :=
  let (halves, scaled) := halvesOf rank exponent
  let below := halves / (2 * scaled)
  match readsAs rank below exponent, readsAs rank (below + 1) exponent with
  | false, false => none
  | true, false => some below
  | false, true => some (below + 1)
  | true, true =>
    let middle := (2 * below + 1) * scaled
    if halves < middle then some below
    else if middle < halves then some (below + 1)
    else some (below + below % 2)

/-- The first power of ten, going down, with a multiple that is read as the
magnitude.  Should none be found the exact value is given. -/
def shortestFrom (rank : Fin infinityRank) : Nat → Int → Nat × Int
  | 0, _ => (units rank * Nat.pow 5 1074, -1074)
  | attempts + 1, exponent =>
    match gridPoint? rank exponent with
    | some coefficient => (coefficient, exponent)
    | none => shortestFrom rank attempts (exponent - 1)

/-- A power of ten above the magnitude, by less than two places too high. -/
def decimalPlaces (rank : Nat) : Int :=
  (((units rank).log2 : Int) - 1074) * 30103 / 100000 + 2

/-- The shortest decimal of a finite float, its digits free of zeros at the end. -/
def shortest (negative : Bool) (rank : Fin infinityRank) : Decimal :=
  let (coefficient, exponent) := shortestFrom rank 20 (decimalPlaces rank)
  Decimal.normalize ⟨negative, Numeral.digits coefficient, exponent⟩

end Binary64

end Formulary
