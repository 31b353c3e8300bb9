import Formulary.Yaml.PlainScalar
import Formulary.Yaml.ReadError

namespace Formulary.Yaml

/-! # Quoted scalars

Between single quotes only a doubled quote is special; between double quotes a
backslash starts an escape.  Line breaks fold as in plain scalars, and no
document marker may stand at the start of a line.
-/

def simpleEscape? : CodePoint → Option CodePoint
  | .scalar '0' => some (.scalar '\x00')
  | .scalar 'a' => some (.scalar '\x07')
  | .scalar 'b' => some (.scalar '\x08')
  | .scalar 't' => some (.scalar '\t')
  | .scalar '\t' => some (.scalar '\t')
  | .scalar 'n' => some (.scalar '\n')
  | .scalar 'v' => some (.scalar '\x0b')
  | .scalar 'f' => some (.scalar '\x0c')
  | .scalar 'r' => some (.scalar '\r')
  | .scalar 'e' => some (.scalar '\x1b')
  | .scalar ' ' => some (.scalar ' ')
  | .scalar '"' => some (.scalar '"')
  | .scalar '\\' => some (.scalar '\\')
  | .scalar '/' => some (.scalar '/')
  | .scalar 'N' => some (.scalar '\u0085')
  | .scalar '_' => some (.scalar '\u00a0')
  | .scalar 'L' => some (.scalar '\u2028')
  | .scalar 'P' => some (.scalar '\u2029')
  | _ => none

def escapeWidth? : CodePoint → Option Nat
  | .scalar 'x' => some 2
  | .scalar 'u' => some 4
  | .scalar 'U' => some 8
  | _ => none

def hexNumber? (digits : Text) : Option Nat :=
  digits.foldlM (fun total point => do
    let digit ← point.hexDigit?
    return total * 16 + digit.val) 0

/-- Breaks of empty lines inside quotes, and the place behind the blanks after them. -/
def quotedBreaks (fuel : Nat) (breaks : Text) (cursor : Cursor) : Option (Text × Cursor) :=
  match fuel with
  | 0 => none
  | fuel + 1 =>
    if cursor.seesDocumentMarker then none
    else
      let behind := (cursor.takeWhile fun point => point = .scalar ' ' || point = .scalar '\t').2
      match behind.lineBreak? with
      | some (lineBreak, next) => quotedBreaks fuel (breaks ++ [lineBreak]) next
      | none => some (breaks, behind)

def quotedGap (cursor : Cursor) : Option (Text × Cursor) :=
  let (blanks, behind) := cursor.takeWhile fun point => point = .scalar ' ' || point = .scalar '\t'
  match behind.peek with
  | none => none
  | some _ =>
    match behind.lineBreak? with
    | none => some (blanks, behind)
    | some (lineBreak, next) => do
      let (breaks, behind) ← quotedBreaks (next.rest.length + 1) [] next
      return (foldBreaks lineBreak breaks, behind)

/-- What an escape stands for, and the place behind it.  A line break that is
escaped is left out, together with the blanks after it. -/
def escapeAt (cursor : Cursor) : Except ReadError (Text × Cursor) := do
  let letter ← orMalformed cursor.peek
  match simpleEscape? letter with
  | some point => return ([point], cursor.advance)
  | none =>
    match escapeWidth? letter with
    | some width =>
      let digits := cursor.advance.rest.take width
      if digits.length < width then .error .malformed
      else
        let number ← orMalformed (hexNumber? digits)
        match CodePoint.ofValue? number with
        | some point => return ([point], cursor.advanceBy (width + 1))
        | none =>
          .error (.fatal (if number < 0x80000000 then .noCodePoint else .hugeCodePoint))
    | none =>
      let (_, next) ← orMalformed cursor.lineBreak?
      orMalformed (quotedBreaks (next.rest.length + 1) [] next)

/-- The parts of a quoted scalar up to its closing quote, and the place behind the quote. -/
def quotedParts (fuel : Nat) (double : Bool) (taken : Text) (cursor : Cursor) :
    Except ReadError (Text × Cursor) :=
  match fuel with
  | 0 => .error .malformed
  | fuel + 1 =>
    match cursor.rest with
    | [] => .error .malformed
    | point :: following =>
      if !double && point = .scalar '\'' then
        if following.head? = some (.scalar '\'') then
          quotedParts fuel double (taken ++ [point]) (cursor.advanceBy 2)
        else .ok (taken, cursor.advance)
      else if double && point = .scalar '"' then .ok (taken, cursor.advance)
      else if double && point = .scalar '\\' then do
        let (meaning, behind) ← escapeAt cursor.advance
        quotedParts fuel double (taken ++ meaning) behind
      else if isGap (some point) then do
        let (gap, behind) ← orMalformed (quotedGap cursor)
        quotedParts fuel double (taken ++ gap) behind
      else quotedParts fuel double (taken ++ [point]) cursor.advance

/-- The scalar whose opening quote is at the cursor, and the place behind it. -/
def quotedScalar (double : Bool) (cursor : Cursor) : Except ReadError (Text × Cursor) :=
  quotedParts (cursor.rest.length + 1) double [] cursor.advance

end Formulary.Yaml
