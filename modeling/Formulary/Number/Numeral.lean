import Formulary.Text

namespace Formulary

/-! # Numerals

Natural numbers and their digits, most significant digit first.
-/

abbrev Digit := Fin 10

namespace Numeral

/-- The decimal digits of a number in front of digits that follow them. -/
def digitsOnto (number : Nat) (following : List Digit) : List Digit :=
  if number < 10 then Fin.ofNat 10 number :: following
  else digitsOnto (number / 10) (Fin.ofNat 10 number :: following)
termination_by number

def digits (number : Nat) : List Digit :=
  digitsOnto number []

def value (digits : List Digit) : Nat :=
  digits.foldl (fun total digit => 10 * total + digit.val) 0

def write (digits : List Digit) : Text :=
  digits.map fun digit => CodePoint.ofDigit (digit.castLE (by omega))

def ofNat (number : Nat) : Text :=
  write (digits number)

def ofInt (number : Int) : Text :=
  if number < 0 then .scalar '-' :: ofNat number.natAbs else ofNat number.natAbs

def padded (width number : Nat) : Text :=
  let shown := ofNat number
  List.replicate (width - shown.length) (.scalar '0') ++ shown

/-- The hexadecimal digits of a number in front of a text. -/
def hexOnto (number : Nat) (following : Text) : Text :=
  if number < 16 then CodePoint.ofDigit (Fin.ofNat 16 number) :: following
  else hexOnto (number / 16) (CodePoint.ofDigit (Fin.ofNat 16 number) :: following)
termination_by number

/-- A natural number in hexadecimal, lower case, with zeros in front up to a width. -/
def hex (width number : Nat) : Text :=
  let shown := hexOnto number []
  List.replicate (width - shown.length) (.scalar '0') ++ shown

def takeDigits : Text → List Digit × Text
  | [] => ([], [])
  | point :: rest =>
    match point.digit? with
    | some digit =>
      let (digits, remaining) := takeDigits rest
      (digit :: digits, remaining)
    | none => ([], point :: rest)

end Numeral

end Formulary
