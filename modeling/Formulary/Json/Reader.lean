import Formulary.Json

namespace Formulary.Json

/-! # Reading JSON

A text is read from left to right, and the first fault decides the error.
Reading is either lenient or strict about the three constants that are not
JSON: `NaN`, `Infinity` and `-Infinity`.  Inside the reader a place is the
number of code points that are left from there on.
-/

inductive Flaw where
  | valueExpected
  | nameExpected
  | colonExpected
  | commaExpected
  | stringOpen
  | controlCharacter
  | unknownEscape
  | unicodeEscape
  | textAfterValue
  | byteOrderMark
deriving DecidableEq, Repr

def Flaw.message : Flaw → String
  | .valueExpected => "Expecting value"
  | .nameExpected => "Expecting property name enclosed in double quotes"
  | .colonExpected => "Expecting ':' delimiter"
  | .commaExpected => "Expecting ',' delimiter"
  | .stringOpen => "Unterminated string starting at"
  | .controlCharacter => "Invalid control character at"
  | .unknownEscape => "Invalid \\escape"
  | .unicodeEscape => "Invalid \\uXXXX escape"
  | .textAfterValue => "Extra data"
  | .byteOrderMark => "Unexpected UTF-8 BOM (decode using utf-8-sig)"

inductive ReadError where
  /-- The text is not JSON; inside the reader `place` is what is left, outside it is the offset. -/
  | flaw (flaw : Flaw) (place : Nat)
  /-- An integer has more digits than are read. -/
  | longNumeral (digits : Nat)
  /-- Containers are nested too deeply. -/
  | nestedTooDeeply
  /-- A constant that strict reading refuses. -/
  | constantRefused
deriving DecidableEq, Repr

inductive Constants where
  | lenient
  | strict
deriving DecidableEq, Repr

/-- Containers may be nested this deep in a text. -/
def nestingLimit : Nat := 988

/-- White space between tokens: blank, tab, line feed and carriage return. -/
def isBlank (point : CodePoint) : Bool :=
  point = .scalar ' ' || point = .scalar '\t' || point = .scalar '\n' || point = .scalar '\r'

def skipBlank (text : Text) : Text :=
  text.dropWhile isBlank

/-- A step in the body of a string: a code point that stands for itself, or a
code unit that was written as an escape. -/
inductive Piece where
  | plain (point : CodePoint)
  | unit (value : Nat)

namespace Piece

/-- Put a piece in front of others; two escapes that form a surrogate pair become one code point. -/
def prepend : Piece → List Piece → List Piece
  | .unit high, .unit low :: rest =>
    if CodePoint.isHighUnit high && CodePoint.isLowUnit low then
      .plain (.ofPair high low) :: rest
    else .unit high :: .unit low :: rest
  | piece, rest => piece :: rest

def point : Piece → CodePoint
  | .plain point => point
  | .unit value => .ofUnit value

def text (pieces : List Piece) : Text :=
  (pieces.foldr prepend []).map point

end Piece

def unit? (first second third fourth : CodePoint) : Option Nat := do
  let first ← first.hexDigit?
  let second ← second.hexDigit?
  let third ← third.hexDigit?
  let fourth ← fourth.hexDigit?
  return ((first.val * 16 + second.val) * 16 + third.val) * 16 + fourth.val

def escaped? : CodePoint → Option CodePoint
  | .scalar '"' => some (.scalar '"')
  | .scalar '\\' => some (.scalar '\\')
  | .scalar '/' => some (.scalar '/')
  | .scalar 'b' => some (.scalar '\x08')
  | .scalar 'f' => some (.scalar '\x0c')
  | .scalar 'n' => some (.scalar '\n')
  | .scalar 'r' => some (.scalar '\r')
  | .scalar 't' => some (.scalar '\t')
  | _ => none

/-- Read the body of a string up to and over its closing quote.  `opening` is
the place of the opening quote.  After four hexadecimal digits at least one
more code point is needed. -/
def readPieces (opening : Nat) : Text → Except ReadError (List Piece × Text)
  | [] => .error (.flaw .stringOpen opening)
  | .scalar '"' :: rest => .ok ([], rest)
  | .scalar '\\' :: rest =>
    match rest with
    | [] => .error (.flaw .stringOpen opening)
    | .scalar 'u' :: digits =>
      match digits with
      | first :: second :: third :: fourth :: next :: following =>
        match unit? first second third fourth with
        | none => .error (.flaw .unicodeEscape rest.length)
        | some value => do
          let (pieces, remaining) ← readPieces opening (next :: following)
          return (.unit value :: pieces, remaining)
      | _ => .error (.flaw .unicodeEscape rest.length)
    | letter :: following =>
      match escaped? letter with
      | none => .error (.flaw .unknownEscape (rest.length + 1))
      | some point => do
        let (pieces, remaining) ← readPieces opening following
        return (.plain point :: pieces, remaining)
  | point :: rest =>
    if point.value < 0x20 then .error (.flaw .controlCharacter (rest.length + 1))
    else do
      let (pieces, remaining) ← readPieces opening rest
      return (.plain point :: pieces, remaining)

def readString (text : Text) : Except ReadError (Text × Text) := do
  let (pieces, remaining) ← readPieces (text.length + 1) text
  return (Piece.text pieces, remaining)

def takeFraction (text : Text) : Option (List Digit × Text) :=
  match text with
  | .scalar '.' :: rest =>
    match Numeral.takeDigits rest with
    | ([], _) => none
    | found => some found
  | _ => none

def takeExponent (text : Text) : Option (Int × Text) :=
  match text with
  | .scalar 'e' :: rest | .scalar 'E' :: rest =>
    let (negative, unsigned) :=
      match rest with
      | .scalar '-' :: digits => (true, digits)
      | .scalar '+' :: digits => (false, digits)
      | digits => (false, digits)
    match Numeral.takeDigits unsigned with
    | ([], _) => none
    | (digits, remaining) =>
      let power : Int := Numeral.value digits
      some (if negative then -power else power, remaining)
  | _ => none

/-- The digits before the point: a zero alone, or digits that start with no zero. -/
def takeWhole (text : Text) : List Digit × Text :=
  match text with
  | .scalar '0' :: rest => ([⟨0, by decide⟩], rest)
  | _ => Numeral.takeDigits text

/-- Is there a minus sign, and what is behind it? -/
def takeSign (text : Text) : Bool × Text :=
  match text with
  | .scalar '-' :: rest => (true, rest)
  | _ => (false, text)

/-- Read a number.  Without fraction and exponent it is an integer. -/
def readNumber (text : Text) : Except ReadError (Number × Text) :=
  let (negative, unsigned) := takeSign text
  match takeWhole unsigned with
  | ([], _) => .error (.flaw .valueExpected text.length)
  | (whole, afterWhole) =>
    let fraction := takeFraction afterWhole
    let (fractionDigits, afterFraction) := fraction.getD ([], afterWhole)
    let exponent := takeExponent afterFraction
    let (power, remaining) := exponent.getD (0, afterFraction)
    if fraction.isNone && exponent.isNone then
      if Number.digitLimit < whole.length then .error (.longNumeral whole.length)
      else
        let magnitude : Int := Numeral.value whole
        .ok (.int (if negative then -magnitude else magnitude), remaining)
    else
      let coefficient := Numeral.value (whole ++ fractionDigits)
      .ok (.float (.ofDecimal negative coefficient (power - fractionDigits.length)), remaining)

def readConstant (constants : Constants) (value : Binary64) (remaining : Text) :
    Except ReadError (Json × Text) :=
  match constants with
  | .lenient => .ok (.number (.float value), remaining)
  | .strict => .error .constantRefused

def readScalar (constants : Constants) (text : Text) : Except ReadError (Json × Text) :=
  match text with
  | .scalar '"' :: rest => do
    let (value, remaining) ← readString rest
    return (.string value, remaining)
  | .scalar 'n' :: .scalar 'u' :: .scalar 'l' :: .scalar 'l' :: rest => .ok (.null, rest)
  | .scalar 't' :: .scalar 'r' :: .scalar 'u' :: .scalar 'e' :: rest => .ok (.bool true, rest)
  | .scalar 'f' :: .scalar 'a' :: .scalar 'l' :: .scalar 's' :: .scalar 'e' :: rest =>
    .ok (.bool false, rest)
  | _ =>
    match Text.dropStart? "NaN" text with
    | some rest => readConstant constants .nan rest
    | none =>
      match Text.dropStart? "Infinity" text with
      | some rest => readConstant constants (.infinity false) rest
      | none =>
        match Text.dropStart? "-Infinity" text with
        | some rest => readConstant constants (.infinity true) rest
        | none => do
          let (value, remaining) ← readNumber text
          return (.number value, remaining)

mutual

/-- Read one value.  `fuel` bounds the steps, `room` the containers that may
still be opened around a value. -/
def readValue (constants : Constants) (fuel room : Nat) (text : Text) :
    Except ReadError (Json × Text) :=
  match fuel with
  | 0 => .error (.flaw .valueExpected text.length)
  | fuel + 1 =>
    match text with
    | .scalar '[' :: rest =>
      match room with
      | 0 => .error .nestedTooDeeply
      | room + 1 =>
        match skipBlank rest with
        | .scalar ']' :: remaining => .ok (.array [], remaining)
        | start => do
          let (items, remaining) ← readItems constants fuel room start
          return (.array items, remaining)
    | .scalar '{' :: rest =>
      match room with
      | 0 => .error .nestedTooDeeply
      | room + 1 =>
        match skipBlank rest with
        | .scalar '}' :: remaining => .ok (.object [], remaining)
        | start => do
          let (members, remaining) ← readMembers constants fuel room start
          return (.object (Fields.ofMembers members), remaining)
    | _ => readScalar constants text

/-- Read the items of an array from the first one to the closing bracket. -/
def readItems (constants : Constants) (fuel room : Nat) (text : Text) :
    Except ReadError (List Json × Text) :=
  match fuel with
  | 0 => .error (.flaw .valueExpected text.length)
  | fuel + 1 => do
    let (item, afterItem) ← readValue constants fuel room text
    match skipBlank afterItem with
    | .scalar ']' :: remaining => return ([item], remaining)
    | .scalar ',' :: rest =>
      let (items, remaining) ← readItems constants fuel room (skipBlank rest)
      return (item :: items, remaining)
    | other => .error (.flaw .commaExpected other.length)

/-- Read the members of an object from the first name to the closing brace. -/
def readMembers (constants : Constants) (fuel room : Nat) (text : Text) :
    Except ReadError (List (Text × Json) × Text) :=
  match fuel with
  | 0 => .error (.flaw .valueExpected text.length)
  | fuel + 1 =>
    match text with
    | .scalar '"' :: rest => do
      let (name, afterName) ← readString rest
      match skipBlank afterName with
      | .scalar ':' :: rest =>
        let (value, afterValue) ← readValue constants fuel room (skipBlank rest)
        match skipBlank afterValue with
        | .scalar '}' :: remaining => return ([(name, value)], remaining)
        | .scalar ',' :: rest =>
          let (members, remaining) ← readMembers constants fuel room (skipBlank rest)
          return ((name, value) :: members, remaining)
        | other => .error (.flaw .commaExpected other.length)
      | other => .error (.flaw .colonExpected other.length)
    | _ => .error (.flaw .nameExpected text.length)

end

def ReadError.fromStart (total : Nat) : ReadError → ReadError
  | .flaw kind remaining => .flaw kind (total - remaining)
  | error => error

def read (constants : Constants) (text : Text) : Except ReadError Json :=
  let result : Except ReadError Json :=
    match text with
    | .scalar '\uFEFF' :: _ => .error (.flaw .byteOrderMark text.length)
    | _ => do
      let (value, afterValue) ←
        readValue constants (2 * text.length + 1) nestingLimit (skipBlank text)
      match skipBlank afterValue with
      | [] => return value
      | other => .error (.flaw .textAfterValue other.length)
  result.mapError (ReadError.fromStart text.length)

/-- A place in a text for a reader: line and column from one, offset from zero. -/
def placeText (text : Text) (offset : Nat) : Text :=
  let before := text.take offset
  let line := before.count (.scalar '\n') + 1
  let column := (before.reverse.takeWhile (· ≠ .scalar '\n')).length + 1
  "line " ++ Numeral.ofNat line ++ " column " ++ Numeral.ofNat column ++
    " (char " ++ Numeral.ofNat offset ++ ")"

end Formulary.Json
