import Formulary.Json

namespace Formulary.Json

/-! # Quoted strings

A string in a written value stands between double quotes.  Quotes, backslashes
and control characters are escaped always; on ASCII lines so is everything
that is not printable ASCII, the characters past the first plane as a
surrogate pair.
-/

def unicodeEscape (unit : Nat) : Text :=
  "\\u" ++ Numeral.hex 4 unit

/-- The escape that every written string uses for a code point, if it needs one. -/
def shortEscape? (point : CodePoint) : Option Text :=
  match point with
  | .scalar '"' => some "\\\""
  | .scalar '\\' => some "\\\\"
  | .scalar '\n' => some "\\n"
  | .scalar '\r' => some "\\r"
  | .scalar '\t' => some "\\t"
  | .scalar '\x08' => some "\\b"
  | .scalar '\x0c' => some "\\f"
  | _ => none

def escape (point : CodePoint) : Text :=
  match shortEscape? point with
  | some escaped => escaped
  | none => if point.value < 0x20 then unicodeEscape point.value else [point]

def escapeToAscii (point : CodePoint) : Text :=
  match shortEscape? point with
  | some escaped => escaped
  | none =>
    if 0x20 ≤ point.value ∧ point.value < 0x7F then [point]
    else point.units.flatMap unicodeEscape

def quoted (text : Text) : Text :=
  .scalar '"' :: text.flatMap escape ++ [.scalar '"']

def quotedAscii (text : Text) : Text :=
  .scalar '"' :: text.flatMap escapeToAscii ++ [.scalar '"']

end Formulary.Json
