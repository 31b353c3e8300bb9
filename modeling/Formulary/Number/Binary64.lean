namespace Formulary

/-! # Binary floating point with 64 bits

A finite magnitude is given by its rank among all finite magnitudes, counted
upward from zero.  Every finite magnitude is a whole number of units of
2⁻¹⁰⁷⁴, so decoding, arithmetic and rounding are exact computations on
natural numbers of units.  Ranks grow with magnitudes, and rounding picks the
nearest rank, the even one of two that are equally near.
-/

namespace Binary64

/-- One is this many units. -/
def one : Nat := Nat.pow 2 1074

def ranksPerScale : Nat := Nat.pow 2 52

/-- The rank that infinity would have: the first one past the finite magnitudes. -/
def infinityRank : Nat := 0x7FF0000000000000

/-- Neighbouring magnitudes at a rank are 2 to this power units apart. -/
def scale (rank : Nat) : Nat := rank / ranksPerScale - 1

/-- A magnitude in steps of its own spacing. -/
def significand (rank : Nat) : Nat := rank - ranksPerScale * scale rank

def units (rank : Nat) : Nat := significand rank * Nat.pow 2 (scale rank)

/-- A quotient rounded to the nearest whole number, a half to the even one. -/
def roundQuotient (numerator denominator : Nat) : Nat :=
  let below := numerator / denominator
  let twice := 2 * (numerator % denominator)
  if twice < denominator then below
  else if denominator < twice then below + 1
  else below + below % 2

/-- The rank nearest to a number of units that is given as a quotient. -/
def nearestRank (numerator denominator : Nat) : Nat :=
  let spacing := (numerator / denominator).log2 - 52
  ranksPerScale * spacing + roundQuotient numerator (denominator * Nat.pow 2 spacing)

end Binary64

/-- A floating point number: not-a-number, an infinity, or a signed finite magnitude. -/
inductive Binary64 where
  | nan
  | infinity (negative : Bool)
  | finite (negative : Bool) (rank : Fin Binary64.infinityRank)
deriving DecidableEq, Hashable, Repr

namespace Binary64

def zero (negative : Bool) : Binary64 := finite negative ⟨0, by decide⟩

instance : Inhabited Binary64 := ⟨zero false⟩

/-- The float nearest to a signed quotient of units, infinite past the largest magnitude. -/
def ofUnits (negative : Bool) (numerator denominator : Nat) : Binary64 :=
  let rank := nearestRank numerator denominator
  if inRange : rank < infinityRank then finite negative ⟨rank, inRange⟩ else infinity negative

def ofQuotient? (negative : Bool) (numerator denominator : Nat) : Option Binary64 :=
  let rank := nearestRank (one * numerator) denominator
  if inRange : rank < infinityRank then some (finite negative ⟨rank, inRange⟩) else none

def ofInt? (number : Int) : Option Binary64 :=
  ofQuotient? (number < 0) number.natAbs 1

/-- The float nearest to a coefficient times a power of ten.  Exponents that
settle the matter by themselves are not multiplied out. -/
def ofDecimal (negative : Bool) (coefficient : Nat) (exponent : Int) : Binary64 :=
  if coefficient = 0 then zero negative
  else if 310 ≤ exponent then infinity negative
  else if exponent + coefficient.log2 + 331 < 0 then zero negative
  else if 0 ≤ exponent then ofUnits negative (one * (coefficient * Nat.pow 10 exponent.natAbs)) 1
  else ofUnits negative (one * coefficient) (Nat.pow 10 exponent.natAbs)

def signedUnits (negative : Bool) (rank : Nat) : Int :=
  if negative then -(units rank : Int) else units rank

def isNaN : Binary64 → Bool
  | nan => true
  | _ => false

def isFinite : Binary64 → Bool
  | finite _ _ => true
  | _ => false

def isZero : Binary64 → Bool
  | finite _ rank => rank.val = 0
  | _ => false

def isNegative : Binary64 → Bool
  | nan => false
  | infinity negative => negative
  | finite negative _ => negative

def toInt? : Binary64 → Option Int
  | finite negative rank =>
    if units rank % one = 0 then some (signedUnits negative rank / one) else none
  | _ => none

def neg : Binary64 → Binary64
  | nan => nan
  | infinity negative => infinity (!negative)
  | finite negative rank => finite (!negative) rank

/-- The rounded sum.  A sum that vanishes is positive zero unless both terms are negative. -/
def add : Binary64 → Binary64 → Binary64
  | nan, _ => nan
  | _, nan => nan
  | infinity left, infinity right => if left = right then infinity left else nan
  | infinity left, finite _ _ => infinity left
  | finite _ _, infinity right => infinity right
  | finite left leftRank, finite right rightRank =>
    let total := signedUnits left leftRank + signedUnits right rightRank
    if total = 0 then zero (left && right) else ofUnits (total < 0) total.natAbs 1

def sub (left right : Binary64) : Binary64 :=
  add left right.neg

/-- The rounded product; an infinity times zero is not a number. -/
def mul : Binary64 → Binary64 → Binary64
  | nan, _ => nan
  | _, nan => nan
  | infinity left, right => if right.isZero then nan else infinity (left != right.isNegative)
  | left, infinity right => if left.isZero then nan else infinity (left.isNegative != right)
  | finite left leftRank, finite right rightRank =>
    ofUnits (left != right) (units leftRank * units rightRank) one

/-- The rounded quotient.  Zero by zero is not a number, and any other number
by zero is an infinity. -/
def div : Binary64 → Binary64 → Binary64
  | nan, _ => nan
  | _, nan => nan
  | infinity _, infinity _ => nan
  | infinity left, finite right _ => infinity (left != right)
  | finite left _, infinity right => zero (left != right)
  | finite left leftRank, finite right rightRank =>
    if rightRank.val = 0 then
      if leftRank.val = 0 then nan else infinity (left != right)
    else
      ofUnits (left != right) (one * units leftRank) (units rightRank)

end Binary64

end Formulary
