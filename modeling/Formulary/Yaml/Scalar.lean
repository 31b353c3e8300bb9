import Formulary.Yaml.Atom
import Formulary.Yaml.ReadError
import Formulary.Text.Blank
import Formulary.Text.DecimalDigit
import Formulary.Text.LowerCase

namespace Formulary.Yaml

/-! # Scalars and their tags

A scalar without quotes and without a tag gets its tag from its text: words
for nothing and for truth values, integers in four bases and in sixties,
floats with a point, timestamps.  An indicator alone has no meaning, and all
other scalars are strings.  A line feed behind such a text makes no difference
to its tag.
-/

inductive Tag where
  | null
  | bool
  | int
  | float
  | binary
  | timestamp
  | omap
  | pairs
  | set
  | str
  | seq
  | map
  | merge
  | value
  | unknown
deriving DecidableEq, Repr

namespace Tag

def standardLead : Text := "tag:yaml.org,2002:"

def standard : List (Text × Tag) :=
  [("null", null), ("bool", bool), ("int", int), ("float", float), ("binary", binary),
    ("timestamp", timestamp), ("omap", omap), ("pairs", pairs), ("set", set), ("str", str),
    ("seq", seq), ("map", map), ("merge", merge), ("value", value)]

def ofName (name : Text) : Tag :=
  match Text.dropStart? standardLead name with
  | some short => (standard.lookup short).getD unknown
  | none => unknown

end Tag

namespace Scalar

def nullWords : List Text := ["~", "null", "Null", "NULL", ""]

def boolWords : List (Text × Bool) :=
  [("yes", true), ("Yes", true), ("YES", true), ("no", false), ("No", false), ("NO", false),
    ("true", true), ("True", true), ("TRUE", true), ("false", false), ("False", false),
    ("FALSE", false), ("on", true), ("On", true), ("ON", true), ("off", false), ("Off", false),
    ("OFF", false)]

def dropSign (text : Text) : Bool × Text :=
  match text with
  | .scalar '-' :: rest => (true, rest)
  | .scalar '+' :: rest => (false, rest)
  | _ => (false, text)

def isDigit (point : CodePoint) : Bool := point.digit?.isSome

def isDigitOrBar (point : CodePoint) : Bool := isDigit point || point = .scalar '_'

def isBaseDigitOrBar (base : Nat) (point : CodePoint) : Bool :=
  point = .scalar '_' || ((point.hexDigit?.map fun digit => decide (digit.val < base)).getD false)

/-- Groups of a number in sixties behind its first group: a colon and one or
two digits, the first of two below six.  What is left behind the last group is
returned if there is at least one. -/
def takeSixties (fuel : Nat) (found : Bool) (text : Text) : Option Text :=
  match fuel with
  | 0 => none
  | fuel + 1 =>
    match text with
    | .scalar ':' :: first :: second :: rest =>
      if isDigit first && isDigit second && first.value < 54 then takeSixties fuel true rest
      else if isDigit first then takeSixties fuel true (second :: rest)
      else if found then some text else none
    | [.scalar ':', only] => if isDigit only then some [] else if found then some text else none
    | _ => if found then some text else none

def isUnsignedInt (text : Text) : Bool :=
  match text with
  | .scalar '0' :: .scalar 'b' :: rest => rest ≠ [] && rest.all (isBaseDigitOrBar 2)
  | .scalar '0' :: .scalar 'x' :: rest => rest ≠ [] && rest.all (isBaseDigitOrBar 16)
  | .scalar '0' :: rest => rest.all (isBaseDigitOrBar 8)
  | first :: rest =>
    isDigit first &&
      match rest.dropWhile isDigitOrBar with
      | [] => true
      | other => takeSixties (other.length + 1) false other = some []
  | [] => false

def isInt (text : Text) : Bool := isUnsignedInt (dropSign text).2

def isExponent (text : Text) : Bool :=
  match text with
  | [] => true
  | letter :: sign :: digits =>
    (letter = .scalar 'e' || letter = .scalar 'E') && (sign = .scalar '+' || sign = .scalar '-') &&
      digits ≠ [] && digits.all isDigit
  | _ => false

/-- Digits with a point, or a number in sixties with a point. -/
def isPointed (text : Text) : Bool :=
  match text with
  | first :: _ =>
    isDigit first &&
      match text.dropWhile isDigitOrBar with
      | .scalar '.' :: fraction => isExponent (fraction.dropWhile isDigitOrBar)
      | other =>
        match takeSixties (other.length + 1) false other with
        | some (.scalar '.' :: fraction) => fraction.all isDigitOrBar
        | _ => false
  | [] => false

def infinityWords : List Text := [".inf", ".Inf", ".INF"]

def nanWords : List Text := [".nan", ".NaN", ".NAN"]

def isFloat (text : Text) : Bool :=
  let unsigned := (dropSign text).2
  isPointed unsigned || infinityWords.contains unsigned || nanWords.contains text ||
    match text with
    | .scalar '.' :: first :: rest => isDigit first && isExponent (rest.dropWhile isDigitOrBar)
    | _ => false

/-- Indicators that begin no plain scalar.  As texts of their own they have a
tag that stands for no value, so that one without a tag is not read as a string. -/
def indicators : List Text := ["!", "&", "*"]

def implicitTag (text : Text) : Tag :=
  let shape := Text.dropFinalFeed text
  if shape = [] ∧ text ≠ [] then .str
  else if (boolWords.lookup shape).isSome then .bool
  else if isFloat shape then .float
  else if isInt shape then .int
  else if shape = "<<" then .merge
  else if nullWords.contains shape then .null
  else if Timestamp.isPlain text then .timestamp
  else if shape = "=" then .value
  else if indicators.contains shape then .unknown
  else .str

def groups (text : Text) : List Text := Text.splitAt (.scalar ':') text

/-- White space around a number; the four ASCII separators are none. -/
def isSpace (point : CodePoint) : Bool :=
  Text.isBlank point && !(0x1C ≤ point.value && point.value < 0x20)

def trim (text : Text) : Text :=
  ((text.dropWhile isSpace).reverse.dropWhile isSpace).reverse

/-- The digit that a code point writes in a base: a decimal digit of any script,
or one of the ASCII letters. -/
def baseDigit? (base : Nat) (point : CodePoint) : Option Nat := do
  let digit ← (Text.decimalDigit? point).map Fin.val <|> point.hexDigit?.map Fin.val
  guard (digit < base)
  return digit

/-- The letter that may stand behind a zero in front of the digits of a base. -/
def baseLetter? : Nat → Option Char
  | 2 => some 'b'
  | 8 => some 'o'
  | 16 => some 'x'
  | _ => none

/-- Digits without the zero and the letter that may name their base. -/
def dropBaseLetter (base : Nat) (text : Text) : Text :=
  match text, baseLetter? base with
  | .scalar '0' :: .scalar letter :: rest, some expected =>
    if letter.toLower = expected then rest else text
  | _, _ => text

/-- The natural number that digits write in a base, if all of them are digits. -/
def natural? (base : Nat) (digits : Text) : Option Nat := do
  guard (digits ≠ [])
  digits.foldlM (fun total point => do
    let digit ← baseDigit? base point
    return total * base + digit) 0

def baseNumber? (base : Nat) (text : Text) : Option Int := do
  let (negative, digits) := dropSign (trim text)
  let magnitude ← natural? base (dropBaseLetter base digits)
  return if negative then -(magnitude : Int) else magnitude

def leadingDigits (text : Text) : Nat :=
  (Text.takeDecimalDigits (dropSign (trim text)).2).1.length

/-- The length at which a text that is no integer is cut in messages. -/
def shownLength : Nat := 200

/-- Read an integer in a base.  Decimal integers have a limit of digits, which
is looked at before anything that may follow the digits. -/
def readBase (base : Nat) (text : Text) : Except Fatal Int :=
  if base = 10 ∧ Number.digitLimit < leadingDigits text then
    .error (.longNumeral (leadingDigits text))
  else
    match baseNumber? base text with
    | some number => .ok number
    | none =>
      .error (.badScalar ("invalid literal for int() with base " ++ Numeral.ofNat base ++ ": " ++
        (Text.literal text).take shownLength))

/-- The number that groups write in base sixty, from its first group on. -/
def sixtiesOf (numbers : List Int) : Int :=
  numbers.foldl (fun total number => total * 60 + number) 0

def readInt (text : Text) : Except Fatal Int := do
  let bare := text.filter (· ≠ .scalar '_')
  if bare = [] then .error .emptyNumeral
  else
    let (negative, unsigned) := dropSign bare
    let magnitude ←
      match unsigned with
      | [.scalar '0'] => .ok 0
      | .scalar '0' :: .scalar 'b' :: rest => readBase 2 rest
      | .scalar '0' :: .scalar 'x' :: rest => readBase 16 rest
      | .scalar '0' :: _ => readBase 8 unsigned
      | [] => .error .emptyNumeral
      | _ =>
        if unsigned.contains (.scalar ':') then
          ((groups unsigned).mapM (readBase 10)).map sixtiesOf
        else readBase 10 unsigned
    return if negative then -magnitude else magnitude

def exponent? (text : Text) : Option Int := do
  let (negative, digits) := dropSign text
  let magnitude ← natural? 10 digits
  return if negative then -(magnitude : Int) else magnitude

def decimalFloat? (text : Text) : Option Binary64 := do
  let (negative, unsigned) := dropSign (trim text)
  if unsigned = "inf" ∨ unsigned = "infinity" then return .infinity negative
  else if unsigned = "nan" then return .nan
  else
    let (whole, rest) := Text.takeDecimalDigits unsigned
    let (fraction, rest) :=
      match rest with
      | .scalar '.' :: following => Text.takeDecimalDigits following
      | _ => ([], rest)
    guard (whole ≠ [] || fraction ≠ [])
    let power ←
      match rest with
      | [] => some (0 : Int)
      | .scalar 'e' :: exponent => exponent? exponent
      | _ => none
    return .ofDecimal negative (Numeral.value (whole ++ fraction)) (power - fraction.length)

def readDecimal (text : Text) : Except Fatal Binary64 :=
  match decimalFloat? text with
  | some value => .ok value
  | none => .error (.badScalar ("could not convert string to float: " ++ Text.literal text))

/-- The sum of groups in base sixty, added up from the last group on.  The
weight of a group is a float too, so there must not be too many of them. -/
def sumSixties (base : Int) (total : Binary64) : List Binary64 → Except Fatal Binary64
  | [] => .ok total
  | digit :: rest => do
    let weight ← (Number.floatOfInt base).mapError .range
    sumSixties (base * 60) (total.add (digit.mul weight)) rest

/-- The word for what is not a number, without the case of its letters. -/
def nanWord : Text := ".nan"

def bareFloat (text : Text) : Text :=
  Text.lower (text.filter (· ≠ .scalar '_'))

def readFloat (text : Text) : Except Fatal Binary64 := do
  let bare := bareFloat text
  if bare = [] then .error .emptyNumeral
  else
    let (negative, unsigned) := dropSign bare
    if unsigned = nanWord then return .nan
    else
      let magnitude ←
        if unsigned = ".inf" then .ok (.infinity false)
        else if unsigned.contains (.scalar ':') then do
          let numbers ← (groups unsigned).mapM readDecimal
          sumSixties 1 (.zero false) numbers.reverse
        else readDecimal unsigned
      return if negative then magnitude.neg else magnitude

def floatAtom (node : Nat) (text : Text) : Except Fatal Atom := do
  match ← readFloat text with
  | .nan => return .nan (if (dropSign (bareFloat text)).2 = nanWord then none else some node)
  | value => return .number (.float value)

def readBool (text : Text) : Except Fatal Bool :=
  match boolWords.lookup (Text.lower text) with
  | some value => .ok value
  | none => .error .badTruth

def readTimestamp (text : Text) : Except Fatal Timestamp :=
  match Timestamp.ofText? text with
  | none => .error .badDate
  | some (.date date) =>
    match date.fault? with
    | some fault => .error (.badScalar fault)
    | none => .ok (.date date)
  | some (.moment moment) =>
    match moment.fault? with
    | some fault => .error (.badScalar fault)
    | none => .ok (.moment moment)

/-- The six bits that a code point stands for in encoded bytes. -/
def sextet? (point : CodePoint) : Option Nat :=
  let value := point.value
  if 65 ≤ value ∧ value < 91 then some (value - 65)
  else if 97 ≤ value ∧ value < 123 then some (value - 71)
  else if 48 ≤ value ∧ value < 58 then some (value + 4)
  else if value = 43 then some 62
  else if value = 47 then some 63
  else none

/-- Bytes from groups of four code points.  Others are skipped, and padding
that completes a group ends the text. -/
def decodeSextets (bytes : List UInt8) (held : List Nat) (padding : Nat) :
    Text → Option (List UInt8)
  | [] => if held = [] then some bytes else none
  | point :: rest =>
    if point = .scalar '=' then
      if 2 ≤ held.length ∧ 4 ≤ held.length + padding + 1 then
        match held with
        | [first, second] => some (bytes ++ [.ofNat (first * 4 + second / 16)])
        | [first, second, third] =>
          some (bytes ++ [.ofNat (first * 4 + second / 16), .ofNat (second * 16 + third / 4)])
        | _ => none
      else decodeSextets bytes held (padding + 1) rest
    else
      match sextet? point with
      | none => decodeSextets bytes held padding rest
      | some sextet =>
        match held with
        | [first, second, third] =>
          decodeSextets
            (bytes ++ [.ofNat (first * 4 + second / 16), .ofNat (second * 16 + third / 4),
              .ofNat (third * 64 + sextet)])
            [] 0 rest
        | _ => decodeSextets bytes (held ++ [sextet]) 0 rest

def readBinary? (text : Text) : Option (List UInt8) :=
  if text.all fun point => point.value < 0x80 then decodeSextets [] [] 0 text else none

end Scalar

def Scalar.value (node : Nat) (tag : Tag) (text : Text) : Except ReadError Atom :=
  match tag with
  | .null => .ok .null
  | .bool => (readBool text).map Atom.bool |>.mapError .fatal
  | .int => (readInt text).map (fun number => Atom.number (.int number)) |>.mapError .fatal
  | .float => (floatAtom node text).mapError .fatal
  | .timestamp => (readTimestamp text).map Atom.time |>.mapError .fatal
  | .str => .ok (.text text)
  | .binary =>
    match readBinary? text with
    | some bytes => .ok (.bytes bytes)
    | none => .error .malformed
  | _ => .error .malformed

end Formulary.Yaml
