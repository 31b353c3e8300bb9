import Formulary.Evaluation
import Formulary.Proofs.Json.Opening
import Formulary.Proofs.Text.Encoding

namespace Formulary

/-! # Documents in bytes

The encoding of a document is told from its first four bytes, and bytes are read
as the text they encode.  Zero bytes tell the encoding because a document starts
with an ASCII character and has no zero behind it: a zero byte at the start then
belongs to a wide unit.
-/

namespace Encoding

open CodePoint (zero)

variable {encoding : Encoding} {order : ByteOrder} {point : CodePoint} {text rest : Text}
  {bytes : List UInt8}

/-- The bytes of a text, behind the mark of the encoding or without it. -/
def write (encoding : Encoding) (withMark : Bool) (text : Text) : List UInt8 :=
  if withMark then encoding.mark ++ encoding.encode text else encoding.encode text

theorem encode_cons (encoding : Encoding) (point : CodePoint) (text : Text) :
    encoding.encode (point :: text) = encoding.pointBytes point ++ encoding.encode text :=
  List.flatMap_cons

/-! ## The first bytes -/

/-- A byte alone, or among the zero bytes that fill its unit. -/
def padded (encoding : Encoding) (byte : UInt8) : List UInt8 :=
  match encoding with
  | utf8 => [byte]
  | utf16 .bigEndian => [0, byte]
  | utf16 .littleEndian => [byte, 0]
  | utf32 .bigEndian => [0, 0, 0, byte]
  | utf32 .littleEndian => [byte, 0, 0, 0]

theorem pointBytes_ascii (encoding : Encoding) (ascii : point.value < 0x80) :
    encoding.pointBytes point = encoding.padded (.ofNat point.value) := by
  have second : point.value / 256 = 0 := Nat.div_eq_of_lt (by omega)
  have third : point.value / 65536 = 0 := Nat.div_eq_of_lt (by omega)
  have fourth : point.value / 16777216 = 0 := Nat.div_eq_of_lt (by omega)
  have units : point.units = [point.value] := by
    rw [CodePoint.units, if_pos (by omega)]
  cases encoding with
  | utf8 => simp only [pointBytes, utf8Bytes, if_pos ascii, padded]
  | utf16 order => cases order <;>
      simp [pointBytes, units, bytesOf, padded, List.range_succ, second]
  | utf32 order => cases order <;>
      simp [pointBytes, bytesOf, padded, List.range_succ, second, third, fourth]

theorem mark_eq (encoding : Encoding) :
    encoding.mark =
      match encoding with
      | utf8 => [0xEF, 0xBB, 0xBF]
      | utf16 .bigEndian => [0xFE, 0xFF]
      | utf16 .littleEndian => [0xFF, 0xFE]
      | utf32 .bigEndian => [0, 0, 0xFE, 0xFF]
      | utf32 .littleEndian => [0xFF, 0xFE, 0, 0] := by
  cases encoding with
  | utf8 => decide
  | utf16 order => cases order <;> decide
  | utf32 order => cases order <;> decide

/-- No code point but zero is written in UTF-8 with a zero at the front. -/
theorem utf8Bytes_cons (noZero : point ≠ zero) :
    ∃ lead following, utf8Bytes point = lead :: following ∧ lead ≠ 0 := by
  have last := point.value_lt
  have positive : point.value ≠ 0 := CodePoint.value_eq_zero_iff.not.mpr noZero
  have nonzero {number : Nat} (fits : number < 256) (positive : number ≠ 0) :
      UInt8.ofNat number ≠ 0 := by
    intro same
    have number := toNat_ofNat_of_lt fits
    rw [same] at number
    exact positive number.symm
  unfold utf8Bytes
  dsimp only
  split
  · exact ⟨_, _, rfl, nonzero (by omega) positive⟩
  · split
    · exact ⟨_, _, rfl, nonzero (by omega) (by omega)⟩
    · split
      · exact ⟨_, _, rfl, nonzero (by omega) (by omega)⟩
      · exact ⟨_, _, rfl, nonzero (by omega) (by omega)⟩

theorem units_cons (noZero : point ≠ zero) :
    ∃ unit following, point.units = unit :: following ∧ unit ≠ 0 := by
  have positive : point.value ≠ 0 := CodePoint.value_eq_zero_iff.not.mpr noZero
  unfold CodePoint.units
  split
  · exact ⟨_, _, rfl, positive⟩
  · exact ⟨_, _, rfl, by omega⟩

theorem utf16Bytes_cons (noZero : point ≠ zero) :
    ∃ first second following, (utf16 order).pointBytes point = first :: second :: following ∧
      ¬ (first = 0 ∧ second = 0) := by
  obtain ⟨unit, following, units, positive⟩ := units_cons noZero
  have fits := units_fit point unit (units ▸ List.mem_cons_self)
  have number := numberOf_bytesOf order fits
  obtain ⟨first, second, two⟩ : ∃ first second, bytesOf order 2 unit = [first, second] := by
    cases order <;> exact ⟨_, _, rfl⟩
  refine ⟨first, second, following.flatMap (bytesOf order 2), ?_, ?_⟩
  · rw [pointBytes, units, List.flatMap_cons, two]
    rfl
  · intro zeros
    obtain ⟨noFirst, noSecond⟩ := zeros
    rw [two, noFirst, noSecond] at number
    cases order <;> exact positive number.symm

/-! ## Detection -/

section Detection

variable {byte : UInt8}

/-- What starts with an ASCII character, zero apart, starts with no mark. -/
theorem dropMark?_padded (other : Encoding) (ascii : byte < 0x80) (positive : byte ≠ 0) :
    other.dropMark? (encoding.padded byte ++ bytes) = none := by
  have different {value : UInt8} (beyond : ¬ value < 0x80) : value ≠ byte := by
    intro same
    exact beyond (same ▸ ascii)
  have noEF : (0xEF : UInt8) ≠ byte := different (by decide)
  have noFE : (0xFE : UInt8) ≠ byte := different (by decide)
  have noFF : (0xFF : UInt8) ≠ byte := different (by decide)
  have noMark : other.mark.isPrefixOf (encoding.padded byte ++ bytes) = false := by
    rw [mark_eq]
    rcases other with _ | ⟨_ | _⟩ | ⟨_ | _⟩ <;> rcases encoding with _ | ⟨_ | _⟩ | ⟨_ | _⟩ <;>
      simp [List.isPrefixOf_cons_cons, padded, noEF, noFE, noFF, positive.symm]
  rw [dropMark?, noMark, if_neg Bool.false_ne_true]

theorem detect_padded (ascii : byte < 0x80) (positive : byte ≠ 0) :
    detect (encoding.padded byte ++ bytes) =
      (ofZeros (encoding.padded byte ++ bytes), encoding.padded byte ++ bytes) := by
  simp only [detect, marked, List.findSome?_cons, List.findSome?_nil,
    dropMark?_padded _ ascii positive, Option.map_none]

/-- Behind its mark an encoding is found, the mark of UTF-16 too: what follows it
does not start with two zero bytes. -/
theorem detect_mark (positive : byte ≠ 0) :
    detect (encoding.mark ++ (encoding.padded byte ++ bytes)) =
      (encoding, encoding.padded byte ++ bytes) := by
  rcases encoding with _ | ⟨_ | _⟩ | ⟨_ | _⟩ <;>
    simp [detect, marked, dropMark?, mark_eq, padded, positive.symm]

theorem ofZeros_nonzero {first second : UInt8} (noFirst : first ≠ 0) (noSecond : second ≠ 0) :
    ofZeros (first :: second :: bytes) = utf8 := by
  unfold ofZeros
  split
  · rename_i same
    cases same
    rw [if_neg noFirst, if_neg noSecond]
  · rename_i same
    cases same
    rw [if_neg noFirst, if_neg noSecond]
  · rfl

theorem ofZeros_padded (positive : byte ≠ 0) (noZero : text.head? ≠ some zero) :
    ofZeros (encoding.padded byte ++ encoding.encode text) = encoding := by
  cases text with
  | nil => rcases encoding with _ | ⟨_ | _⟩ | ⟨_ | _⟩ <;> simp [encode, padded, ofZeros, positive]
  | cons point rest =>
      have other : point ≠ zero := by
        intro same
        exact noZero (congrArg some same)
      rw [encode_cons]
      cases encoding with
      | utf8 =>
          obtain ⟨lead, following, sequence, noLead⟩ := utf8Bytes_cons other
          rw [pointBytes, sequence]
          exact ofZeros_nonzero positive noLead
      | utf16 order =>
          obtain ⟨first, second, following, unit, noUnit⟩ := utf16Bytes_cons other
          rw [unit]
          cases order <;> simp [padded, ofZeros, positive, noUnit]
      | utf32 order => cases order <;> simp [padded, ofZeros, positive]

end Detection

/-- The mark and the zeros tell the encoding of every text that starts as documents do. -/
theorem detect_write (encoding : Encoding) (withMark : Bool) (positive : 0 < point.value)
    (ascii : point.value < 0x80) (noZero : text.head? ≠ some zero) :
    detect (encoding.write withMark (point :: text)) =
      (encoding, encoding.encode (point :: text)) := by
  have byte := toNat_ofNat_of_lt (by omega : point.value < 256)
  have byteAscii : UInt8.ofNat point.value < 0x80 := by
    rw [UInt8.lt_iff_toNat_lt, byte]
    exact ascii
  have bytePositive : UInt8.ofNat point.value ≠ 0 := by
    intro same
    rw [same] at byte
    exact absurd byte (by simp; omega)
  rw [write, encode_cons, pointBytes_ascii encoding ascii]
  cases withMark with
  | true => exact detect_mark bytePositive
  | false =>
      rw [if_neg Bool.false_ne_true, detect_padded byteAscii bytePositive,
        ofZeros_padded bytePositive noZero]

theorem detect_fst (bytes : List UInt8) :
    (detect bytes).1 =
      (marked.find? fun encoding => encoding.mark.isPrefixOf bytes).getD (ofZeros bytes) := by
  unfold detect
  induction marked with
  | nil => rfl
  | cons encoding others ih =>
      rw [List.findSome?_cons, List.find?_cons, dropMark?]
      by_cases starts : encoding.mark.isPrefixOf bytes = true
      · simp only [starts, if_true, Option.map_some, Option.getD_some]
      · simp only [Bool.eq_false_iff.mpr starts, Bool.false_eq_true, if_false, Option.map_none, ih]

theorem length_mark_le (encoding : Encoding) : encoding.mark.length ≤ 4 := by
  rw [mark_eq]
  rcases encoding with _ | ⟨_ | _⟩ | ⟨_ | _⟩ <;> decide

theorem detect_take (bytes : List UInt8) : (detect (bytes.take 4)).1 = (detect bytes).1 := by
  have marks (encoding : Encoding) :
      encoding.mark.isPrefixOf (bytes.take 4) = encoding.mark.isPrefixOf bytes := by
    rw [Bool.eq_iff_iff, List.isPrefixOf_iff_prefix, List.isPrefixOf_iff_prefix,
      List.prefix_take_iff, and_iff_left encoding.length_mark_le]
  have zeros : ofZeros (bytes.take 4) = ofZeros bytes := by
    rcases bytes with _ | ⟨_, _ | ⟨_, _ | ⟨_, _ | ⟨_, _⟩⟩⟩⟩ <;> rfl
  simp only [detect_fst, marks, zeros]

end Encoding

namespace Document

variable {text : Text} {document : Json} {left right : Source}

theorem load_congr (same : parse left = parse right) : load left = load right := by
  rw [load, load, same]

theorem parse_text_eq_some_iff :
    parse (.text text) = some document ↔ Json.read .strict text = .ok document := by
  rw [parse]
  cases Json.read .strict text <;> simp [Except.toOption]

/-- Bytes are taken for the text that they encode, in each encoding, and the first
four of them tell which one it is. -/
theorem bytes_agree (encoding : Encoding) (withMark : Bool) (scalar : text.Scalar)
    (accepted : parse (.text text) = some document) :
    Encoding.detect (encoding.write withMark text) = (encoding, encoding.encode text) ∧
      (Encoding.detect ((encoding.write withMark text).take 4)).1 = encoding ∧
      parse (.bytes (encoding.write withMark text)) = some document ∧
      verdict (.bytes (encoding.write withMark text)) = verdict (.text text) ∧
      diagnose (.bytes (encoding.write withMark text)) = diagnose (.text text) ∧
      ∀ store : Store,
        store.run (.bytes (encoding.write withMark text)) = store.run (.text text) := by
  have read := parse_text_eq_some_iff.mp accepted
  obtain ⟨point, rest, same, positive, ascii⟩ := Json.opens_of_read read
  subst same
  have detected := encoding.detect_write withMark positive ascii (Json.ne_zero_of_read read)
  have parsed : parse (.bytes (encoding.write withMark (point :: rest))) = some document := by
    simp only [parse, detected, encoding.decode_encode scalar, read, Option.bind_eq_bind,
      Option.bind_some, Except.toOption]
  have loaded := load_congr (parsed.trans accepted.symm)
  have diagnosed : diagnose (.bytes (encoding.write withMark (point :: rest))) =
      diagnose (.text (point :: rest)) := by
    rw [diagnose, diagnose, loaded]
  have told : (Encoding.detect ((encoding.write withMark (point :: rest)).take 4)).1 = encoding := by
    rw [Encoding.detect_take, detected]
  refine ⟨detected, told, parsed, ?_, diagnosed, fun store => ?_⟩
  · rw [verdict, verdict, diagnosed]
  · rw [Store.run, Store.run, loaded]

/-- A clef between quotes, in UTF-16 behind a mark that UTF-32 has, too. -/
theorem bytes_agree_clef :
    Text.Scalar "\"𝄞\"" ∧ parse (.text "\"𝄞\"") = some (.string "𝄞") ∧
      parse (.bytes [0xFF, 0xFE, 0x22, 0, 0x34, 0xD8, 0x1E, 0xDD, 0x22, 0]) =
        some (.string "𝄞") := by
  have scalar : Text.Scalar "\"𝄞\"" := by decide
  have accepted : parse (.text "\"𝄞\"") = some (.string "𝄞") := rfl
  have bytes : (Encoding.utf16 .littleEndian).write true "\"𝄞\"" =
      [0xFF, 0xFE, 0x22, 0, 0x34, 0xD8, 0x1E, 0xDD, 0x22, 0] := by decide
  obtain ⟨_, _, parsed, _⟩ := bytes_agree (.utf16 .littleEndian) true scalar accepted
  exact ⟨scalar, accepted, bytes ▸ parsed⟩

end Document

end Formulary
