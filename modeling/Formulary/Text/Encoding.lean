import Formulary.Text

namespace Formulary

/-! # Encodings of texts

A document given as bytes is in UTF-8, UTF-16 or UTF-32.  A mark at its start
names the encoding; without a mark, the zero bytes among the first four tell
it, because the first code points of a document are ASCII.  Documents may hold
lone surrogates in each of the encodings; files may not.
-/

inductive ByteOrder where
  | bigEndian
  | littleEndian
deriving DecidableEq, Repr

inductive Encoding where
  | utf8
  | utf16 (order : ByteOrder)
  | utf32 (order : ByteOrder)
deriving DecidableEq, Repr

namespace Encoding

def bytesOf (order : ByteOrder) (width number : Nat) : List UInt8 :=
  let ascending := (List.range width).map fun place => UInt8.ofNat (number / Nat.pow 256 place)
  match order with
  | .littleEndian => ascending
  | .bigEndian => ascending.reverse

def numberOf (order : ByteOrder) (bytes : List UInt8) : Nat :=
  let descending :=
    match order with
    | .littleEndian => bytes.reverse
    | .bigEndian => bytes
  descending.foldl (fun total byte => total * 256 + byte.toNat) 0

def utf8Bytes (point : CodePoint) : List UInt8 :=
  let value := point.value
  let following (shift : Nat) : UInt8 := .ofNat (0x80 + value / Nat.pow 64 shift % 64)
  if value < 0x80 then [.ofNat value]
  else if value < 0x800 then [.ofNat (0xC0 + value / 64), following 0]
  else if value < 0x10000 then [.ofNat (0xE0 + value / 0x1000), following 1, following 0]
  else [.ofNat (0xF0 + value / 0x40000), following 2, following 1, following 0]

def pointBytes (encoding : Encoding) (point : CodePoint) : List UInt8 :=
  match encoding with
  | utf8 => utf8Bytes point
  | utf16 order => point.units.flatMap (bytesOf order 2)
  | utf32 order => bytesOf order 4 point.value

def encode (encoding : Encoding) (text : Text) : List UInt8 :=
  text.flatMap encoding.pointBytes

def mark (encoding : Encoding) : List UInt8 :=
  encoding.pointBytes (.scalar '\uFEFF')

/-- The six low bits of a byte inside a UTF-8 sequence. -/
def following? (byte : UInt8) : Option Nat :=
  if byte.toNat / 64 = 2 then some (byte.toNat % 64) else none

/-- A code point from its bits, if it has no shorter UTF-8 sequence.  Surrogates
count only where they are allowed. -/
def checkedPoint? (surrogates : Bool) (least value : Nat) : Option CodePoint :=
  if value < least then none
  else
    match CodePoint.ofValue? value with
    | some (.surrogate offset) => if surrogates then some (.surrogate offset) else none
    | point? => point?

def decodeUtf8 (surrogates : Bool) : List UInt8 → Option Text
  | [] => some []
  | first :: rest =>
    let lead := first.toNat
    if lead < 0x80 then do
      let point ← CodePoint.ofValue? lead
      let text ← decodeUtf8 surrogates rest
      return point :: text
    else if lead < 0xC0 then none
    else if lead < 0xE0 then
      match rest with
      | second :: rest => do
        let second ← following? second
        let point ← checkedPoint? surrogates 0x80 ((lead - 0xC0) * 64 + second)
        let text ← decodeUtf8 surrogates rest
        return point :: text
      | _ => none
    else if lead < 0xF0 then
      match rest with
      | second :: third :: rest => do
        let second ← following? second
        let third ← following? third
        let point ← checkedPoint? surrogates 0x800 (((lead - 0xE0) * 64 + second) * 64 + third)
        let text ← decodeUtf8 surrogates rest
        return point :: text
      | _ => none
    else if lead < 0xF8 then
      match rest with
      | second :: third :: fourth :: rest => do
        let second ← following? second
        let third ← following? third
        let fourth ← following? fourth
        let point ← checkedPoint? surrogates 0x10000
          ((((lead - 0xF0) * 64 + second) * 64 + third) * 64 + fourth)
        let text ← decodeUtf8 surrogates rest
        return point :: text
      | _ => none
    else none

def utf16Units? (order : ByteOrder) : List UInt8 → Option (List Nat)
  | [] => some []
  | first :: second :: rest => do
    let units ← utf16Units? order rest
    return numberOf order [first, second] :: units
  | [_] => none

/-- Put a code unit in front of a text; two halves of a surrogate pair become one code point. -/
def prependUnit (unit : Nat) : Text → Text
  | .surrogate offset :: rest =>
    if CodePoint.isHighUnit unit && CodePoint.isLowUnit (CodePoint.surrogate offset).value then
      .ofPair unit (CodePoint.surrogate offset).value :: rest
    else
      .ofUnit unit :: .surrogate offset :: rest
  | text => .ofUnit unit :: text

def decodeUtf32 (order : ByteOrder) : List UInt8 → Option Text
  | [] => some []
  | first :: second :: third :: fourth :: rest => do
    let point ← CodePoint.ofValue? (numberOf order [first, second, third, fourth])
    let text ← decodeUtf32 order rest
    return point :: text
  | _ => none

/-- The text of bytes that hold no mark; lone surrogates are kept. -/
def decode (encoding : Encoding) (bytes : List UInt8) : Option Text :=
  match encoding with
  | utf8 => decodeUtf8 true bytes
  | utf16 order => (utf16Units? order bytes).map (·.foldr prependUnit [])
  | utf32 order => decodeUtf32 order bytes

def dropMark? (encoding : Encoding) (bytes : List UInt8) : Option (List UInt8) :=
  if encoding.mark.isPrefixOf bytes then some (bytes.drop encoding.mark.length) else none

/-- The encodings in the order in which their marks are looked for: the mark of
UTF-16 is the start of a mark of UTF-32. -/
def marked : List Encoding :=
  [utf32 .bigEndian, utf32 .littleEndian, utf16 .bigEndian, utf16 .littleEndian, utf8]

/-- The encoding that the zero bytes at the start of a document tell. -/
def ofZeros (bytes : List UInt8) : Encoding :=
  match bytes with
  | first :: second :: third :: fourth :: _ =>
    if first = 0 then if second = 0 then utf32 .bigEndian else utf16 .bigEndian
    else if second = 0 then
      if third = 0 ∧ fourth = 0 then utf32 .littleEndian else utf16 .littleEndian
    else utf8
  | [first, second] =>
    if first = 0 then utf16 .bigEndian
    else if second = 0 then utf16 .littleEndian
    else utf8
  | _ => utf8

/-- The encoding of a document and its bytes behind the mark. -/
def detect (bytes : List UInt8) : Encoding × List UInt8 :=
  match marked.findSome? fun encoding =>
      (encoding.dropMark? bytes).map fun rest => (encoding, rest) with
  | some found => found
  | none => (ofZeros bytes, bytes)

end Encoding

end Formulary
