namespace Formulary

/-! # Texts

Documents, tables and messages are lists of code points.  A code point is a
character or a surrogate that stands alone: an escape in a document may name
one half of a surrogate pair without the other, and such a text is still
read, compared and printed.
-/

/-- A Unicode code point, the unpaired surrogates included. -/
inductive CodePoint where
  | scalar (character : Char)
  | surrogate (offset : Fin 0x800)
deriving DecidableEq, Repr, Inhabited

namespace CodePoint

instance : Coe Char CodePoint := ⟨scalar⟩

/-- The number of a code point; surrogates start at `0xD800`. -/
def value : CodePoint → Nat
  | scalar character => character.toNat
  | surrogate offset => 0xD800 + offset

def isSurrogate : CodePoint → Bool
  | scalar _ => false
  | surrogate _ => true

/-- Does the code point lie in one of these ranges?  Both ends belong to a range. -/
def isWithin (ranges : Array (Nat × Nat)) (point : CodePoint) : Bool :=
  ranges.any fun range => range.1 ≤ point.value && point.value ≤ range.2

instance : Hashable CodePoint := ⟨fun point => hash point.value⟩

def ofValue? (number : Nat) : Option CodePoint :=
  if surrogates : 0xD800 ≤ number ∧ number < 0xE000 then
    some (surrogate ⟨number - 0xD800, by omega⟩)
  else if valid : number.isValidChar then
    some (scalar (Char.ofNatAux number valid))
  else
    none

def isHighUnit (unit : Nat) : Bool := 0xD800 ≤ unit && unit < 0xDC00

def isLowUnit (unit : Nat) : Bool := 0xDC00 ≤ unit && unit < 0xE000

/-- The code point of a code unit of 16 bits that belongs to no pair. -/
def ofUnit (unit : Nat) : CodePoint :=
  (ofValue? unit).getD (scalar '\x00')

def ofPair (high low : Nat) : CodePoint :=
  (ofValue? (0x10000 + (high - 0xD800) * 0x400 + (low - 0xDC00))).getD (scalar '\x00')

def units (point : CodePoint) : List Nat :=
  if point.value < 0x10000 then [point.value]
  else
    let offset := point.value - 0x10000
    [0xD800 + offset / 0x400, 0xDC00 + offset % 0x400]

/-- The decimal digit that a code point writes; only `0` to `9` count. -/
def digit? (point : CodePoint) : Option (Fin 10) :=
  if range : 48 ≤ point.value ∧ point.value < 58 then
    some ⟨point.value - 48, by omega⟩
  else
    none

def hexDigit? (point : CodePoint) : Option (Fin 16) :=
  if decimal : 48 ≤ point.value ∧ point.value < 58 then
    some ⟨point.value - 48, by omega⟩
  else if upper : 65 ≤ point.value ∧ point.value < 71 then
    some ⟨point.value - 55, by omega⟩
  else if lower : 97 ≤ point.value ∧ point.value < 103 then
    some ⟨point.value - 87, by omega⟩
  else
    none

/-- An ASCII letter or digit. -/
def isAlphanumeric (point : CodePoint) : Bool :=
  (48 ≤ point.value && point.value < 58) || (65 ≤ point.value && point.value < 91) ||
    (97 ≤ point.value && point.value < 123)

def ofDigit (digit : Fin 16) : CodePoint :=
  scalar (if digit.val < 10 then Char.ofNat (48 + digit.val) else Char.ofNat (87 + digit.val))

end CodePoint

/-- A text is the list of its code points. -/
abbrev Text := List CodePoint

namespace Text

def ofString (string : String) : Text :=
  string.toList.map CodePoint.scalar

instance : Coe String Text := ⟨ofString⟩

/-- The characters of a text; a lone surrogate becomes the replacement character. -/
def toString (text : Text) : String :=
  String.ofList (text.map fun
    | .scalar character => character
    | .surrogate _ => '\uFFFD')

/-- Texts are ordered by the numbers of their code points. -/
def before : Text → Text → Bool
  | _, [] => false
  | [], _ :: _ => true
  | left :: lefts, right :: rights =>
    left.value < right.value || (left.value = right.value && before lefts rights)

def lesser (left right : Text) : Text :=
  if before right left then right else left

def least? : List Text → Option Text
  | [] => none
  | first :: rest => some (rest.foldl lesser first)

def join (separator : Text) : List Text → Text
  | [] => []
  | [text] => text
  | text :: next :: rest => text ++ separator ++ join separator (next :: rest)

def splitAt (separator : CodePoint) : Text → List Text
  | [] => [[]]
  | point :: rest =>
    if point = separator then [] :: splitAt separator rest
    else
      match splitAt separator rest with
      | [] => [[point]]
      | part :: parts => (point :: part) :: parts

def dropStart? : Text → Text → Option Text
  | [], text => some text
  | _ :: _, [] => none
  | expected :: start, point :: rest =>
    if expected = point then dropStart? start rest else none

def dropFinalFeed (text : Text) : Text :=
  if text.getLast? = some (.scalar '\n') then text.dropLast else text

def startsWith (start text : Text) : Bool :=
  (dropStart? start text).isSome

end Text

end Formulary
