import Formulary.Text

namespace Formulary.Yaml

/-! # Places in a text of settings

Indentation and line ends carry meaning, so a place in the text is what is
left of it together with the line and column that have been reached.
-/

structure Cursor where
  rest : Text
  index : Nat
  line : Nat
  column : Nat

def isBreak (point : CodePoint) : Bool :=
  point = .scalar '\n' || point = .scalar '\r' || point = .scalar '\u0085' ||
    point = .scalar '\u2028' || point = .scalar '\u2029'

def endsLine : Option CodePoint → Bool
  | none => true
  | some point => isBreak point

/-- The end of the text or of a line, a blank or a tab. -/
def isGap : Option CodePoint → Bool
  | none => true
  | some point => point = .scalar ' ' || point = .scalar '\t' || isBreak point

def isAllowed (point : CodePoint) : Bool :=
  let value := point.value
  value = 0x09 || value = 0x0A || value = 0x0D || value = 0x85 ||
    (0x20 ≤ value && value ≤ 0x7E) || (0xA0 ≤ value && value ≤ 0xD7FF) ||
    (0xE000 ≤ value && value ≤ 0xFFFD) || 0x10000 ≤ value

def isNamePoint (point : CodePoint) : Bool :=
  point.isAlphanumeric || point = .scalar '-' || point = .scalar '_'

namespace Cursor

def start (text : Text) : Cursor := ⟨text, 0, 0, 0⟩

def peek (cursor : Cursor) : Option CodePoint :=
  cursor.rest.head?

def peekAt (cursor : Cursor) (distance : Nat) : Option CodePoint :=
  cursor.rest[distance]?

def sees (cursor : Cursor) (character : Char) : Bool :=
  cursor.peek = some (.scalar character)

def advance (cursor : Cursor) : Cursor :=
  match cursor.rest with
  | [] => cursor
  | point :: rest =>
    if isBreak point && !(point = .scalar '\r' && rest.head? = some (.scalar '\n')) then
      ⟨rest, cursor.index + 1, cursor.line + 1, 0⟩
    else if point = .scalar '\uFEFF' then ⟨rest, cursor.index + 1, cursor.line, cursor.column⟩
    else ⟨rest, cursor.index + 1, cursor.line, cursor.column + 1⟩

def advanceBy : Nat → Cursor → Cursor
  | 0, cursor => cursor
  | count + 1, cursor => advanceBy count cursor.advance

/-- The code points from the cursor that satisfy a test, and the place behind them. -/
def takeWhile (test : CodePoint → Bool) (cursor : Cursor) : Text × Cursor :=
  let taken := cursor.rest.takeWhile test
  (taken, advanceBy taken.length cursor)

def skipBlanks (cursor : Cursor) : Cursor :=
  (cursor.takeWhile (· = .scalar ' ')).2

def skipLine (cursor : Cursor) : Cursor :=
  (cursor.takeWhile (!isBreak ·)).2

def skipBlanksTo (column : Nat) (cursor : Cursor) : Cursor :=
  advanceBy ((cursor.rest.take (column - cursor.column)).takeWhile (· = .scalar ' ')).length cursor

/-- The line break at the cursor, if there is one, and the place behind it.
Only the two Unicode separators are kept as they are. -/
def lineBreak? (cursor : Cursor) : Option (CodePoint × Cursor) :=
  match cursor.rest with
  | .scalar '\r' :: .scalar '\n' :: _ => some (.scalar '\n', advanceBy 2 cursor)
  | point :: _ =>
    if point = .scalar '\u2028' || point = .scalar '\u2029' then some (point, cursor.advance)
    else if isBreak point then some (.scalar '\n', cursor.advance)
    else none
  | [] => none

/-- Does a marker of three characters stand at the cursor with a gap behind it? -/
def seesMarker (marker : Text) (cursor : Cursor) : Bool :=
  Text.startsWith marker cursor.rest && isGap (cursor.peekAt 3)

def seesDocumentMarker (cursor : Cursor) : Bool :=
  cursor.seesMarker "---" || cursor.seesMarker "..."

end Cursor

end Formulary.Yaml
