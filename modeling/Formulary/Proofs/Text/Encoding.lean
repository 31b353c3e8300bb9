import Mathlib.Algebra.Order.Ring.Nat
import Formulary.Proofs.Text.CodePoint
import Formulary.Text.Encoding

namespace Formulary.Encoding

/-! # Decoding undoes encoding

In each encoding the bytes of a text are read back as that text.  UTF-8 and
UTF-32 keep lone surrogates too; in UTF-16 two of them could be read as a pair.
-/

variable {order : ByteOrder} {point : CodePoint} {text : Text}

/-! ## Bytes of a number -/

theorem numberOf_eq_foldr (order : ByteOrder) (width number : Nat) :
    numberOf order (bytesOf order width number) =
      ((List.range width).map fun place => UInt8.ofNat (number / Nat.pow 256 place)).foldr
        (fun byte total => total * 256 + byte.toNat) 0 := by
  cases order <;> simp only [numberOf, bytesOf, List.foldl_reverse]

/-- The places of a number in base 256, put above what has been read already. -/
theorem foldr_places (width number total : Nat) :
    ((List.range width).map fun place => UInt8.ofNat (number / Nat.pow 256 place)).foldr
        (fun byte total => total * 256 + byte.toNat) total =
      total * 256 ^ width + number % 256 ^ width := by
  induction width generalizing total with
  | zero => simp [Nat.mod_one]
  | succ width ih =>
      have digit : (UInt8.ofNat (number / Nat.pow 256 width)).toNat = number / 256 ^ width % 256 :=
        UInt8.toNat_ofNat'
      rw [List.range_succ, List.map_append, List.foldr_append, ih, List.map_singleton,
        List.foldr_cons, List.foldr_nil, digit, Nat.mod_pow_succ, Nat.pow_succ, Nat.add_mul,
        Nat.mul_assoc, Nat.mul_comm 256, Nat.mul_comm (256 ^ width) (number / 256 ^ width % 256)]
      omega

theorem numberOf_bytesOf (order : ByteOrder) {width number : Nat} (fits : number < 256 ^ width) :
    numberOf order (bytesOf order width number) = number := by
  rw [numberOf_eq_foldr, foldr_places, Nat.zero_mul, Nat.zero_add, Nat.mod_eq_of_lt fits]

/-! ## UTF-32 -/

theorem decodeUtf32_point (point : CodePoint) (bytes : List UInt8) :
    decodeUtf32 order (bytesOf order 4 point.value ++ bytes) =
      (decodeUtf32 order bytes).map (point :: ·) := by
  have fits : point.value < 256 ^ 4 := Nat.lt_trans point.value_lt (by decide)
  have number := numberOf_bytesOf order fits
  obtain ⟨first, second, third, fourth, four⟩ : ∃ first second third fourth,
      bytesOf order 4 point.value = [first, second, third, fourth] := by
    cases order <;> exact ⟨_, _, _, _, rfl⟩
  rw [four] at number ⊢
  simp only [List.cons_append, List.nil_append, decodeUtf32, number, CodePoint.ofValue?_value,
    Option.bind_eq_bind, Option.bind_some]
  cases decodeUtf32 order bytes <;> rfl

theorem decodeUtf32_encode (text : Text) :
    decodeUtf32 order ((utf32 order).encode text) = some text := by
  induction text with
  | nil => rfl
  | cons point text ih =>
      rw [encode, List.flatMap_cons, ← encode, pointBytes, decodeUtf32_point, ih, Option.map_some]

/-! ## UTF-16 -/

theorem utf16Units?_units {units : List Nat} (fit : ∀ unit ∈ units, unit < 256 ^ 2)
    (bytes : List UInt8) :
    utf16Units? order (units.flatMap (bytesOf order 2) ++ bytes) =
      (utf16Units? order bytes).map (units ++ ·) := by
  induction units with
  | nil => simp
  | cons unit units ih =>
      obtain ⟨fits, others⟩ := List.forall_mem_cons.mp fit
      have number := numberOf_bytesOf order fits
      obtain ⟨first, second, two⟩ : ∃ first second, bytesOf order 2 unit = [first, second] := by
        cases order <;> exact ⟨_, _, rfl⟩
      rw [two] at number
      simp only [List.flatMap_cons, two, List.cons_append, List.nil_append, utf16Units?, number,
        ih others]
      cases utf16Units? order bytes <;> rfl

theorem units_fit (point : CodePoint) : ∀ unit ∈ point.units, unit < 256 ^ 2 := by
  by_cases beyond : point.value < 0x10000
  · rw [CodePoint.units, if_pos beyond]
    simpa using beyond
  · obtain ⟨high, low, units, highFits, lowFits, _⟩ := CodePoint.units_of_supplementary beyond
    rw [units]
    simpa using ⟨highFits, lowFits⟩

theorem prependUnit_of_alone {unit : Nat} (noHigh : CodePoint.isHighUnit unit = false)
    (text : Text) : prependUnit unit text = .ofUnit unit :: text := by
  unfold prependUnit
  split
  · rw [noHigh, Bool.false_and, if_neg Bool.false_ne_true]
  · rfl

theorem ofUnit_of_isLowUnit {unit : Nat} (isLow : CodePoint.isLowUnit unit = true) :
    ∃ offset, CodePoint.ofUnit unit = .surrogate offset ∧
      (CodePoint.surrogate offset).value = unit := by
  simp only [CodePoint.isLowUnit, Bool.and_eq_true, decide_eq_true_eq] at isLow
  refine ⟨⟨unit - 0xD800, by omega⟩, ?_, ?_⟩
  · have surrogates : 0xD800 ≤ unit ∧ unit < 0xE000 := by omega
    rw [CodePoint.ofUnit, CodePoint.ofValue?, dif_pos surrogates, Option.getD_some]
  · simp only [CodePoint.value]
    omega

/-- Units of one code point are joined with each other and with nothing behind them. -/
theorem foldr_prependUnit (scalar : point.isSurrogate = false) (text : Text) :
    point.units.foldr prependUnit text = point :: text := by
  by_cases beyond : point.value < 0x10000
  · rw [CodePoint.units, if_pos beyond, List.foldr_cons, List.foldr_nil,
      prependUnit_of_alone (CodePoint.isHighUnit_of_scalar scalar), CodePoint.ofUnit_value]
  · obtain ⟨high, low, units, _, _, isHigh, isLow, noHigh, pair⟩ :=
      CodePoint.units_of_supplementary beyond
    obtain ⟨offset, alone, same⟩ := ofUnit_of_isLowUnit isLow
    rw [units, List.foldr_cons, List.foldr_cons, List.foldr_nil, prependUnit_of_alone noHigh, alone]
    simp only [prependUnit, same, isHigh, isLow, Bool.and_self, if_true, pair]

theorem utf16Units?_encode (text : Text) :
    utf16Units? order ((utf16 order).encode text) = some (text.flatMap CodePoint.units) := by
  induction text with
  | nil => rfl
  | cons point text ih =>
      rw [encode, List.flatMap_cons, ← encode, pointBytes, utf16Units?_units (units_fit point), ih,
        Option.map_some, List.flatMap_cons]

theorem foldr_units (scalar : text.Scalar) :
    (text.flatMap CodePoint.units).foldr prependUnit [] = text := by
  induction text with
  | nil => rfl
  | cons point text ih =>
      obtain ⟨here, later⟩ := List.forall_mem_cons.mp scalar
      rw [List.flatMap_cons, List.foldr_append, ih later, foldr_prependUnit here]

/-! ## UTF-8

One step of the decoder for each length of a sequence, then the sequence that is
written for a code point.
-/

section Sequences

variable {surrogates : Bool} {lead : UInt8} {first second third : Nat} {b c d : UInt8}
  {bytes : List UInt8}

theorem decodeUtf8_single (ascii : lead.toNat < 0x80)
    (found : CodePoint.ofValue? lead.toNat = some point) :
    decodeUtf8 surrogates (lead :: bytes) = (decodeUtf8 surrogates bytes).map (point :: ·) := by
  rw [decodeUtf8.eq_def]
  simp only [if_pos ascii, found, Option.bind_eq_bind, Option.bind_some]
  cases decodeUtf8 surrogates bytes <;> rfl

theorem decodeUtf8_pair (from2 : 0xC0 ≤ lead.toNat) (below3 : lead.toNat < 0xE0)
    (follows : following? b = some first)
    (found : checkedPoint? surrogates 0x80 ((lead.toNat - 0xC0) * 64 + first) = some point) :
    decodeUtf8 surrogates (lead :: b :: bytes) =
      (decodeUtf8 surrogates bytes).map (point :: ·) := by
  have noAscii : ¬ lead.toNat < 0x80 := by omega
  rw [decodeUtf8.eq_def]
  simp only [if_neg noAscii, if_neg (Nat.not_lt.mpr from2), if_pos below3, follows, found,
    Option.bind_eq_bind, Option.bind_some]
  cases decodeUtf8 surrogates bytes <;> rfl

theorem decodeUtf8_triple (from3 : 0xE0 ≤ lead.toNat) (below4 : lead.toNat < 0xF0)
    (follows : following? b = some first) (thenFollows : following? c = some second)
    (found : checkedPoint? surrogates 0x800
      (((lead.toNat - 0xE0) * 64 + first) * 64 + second) = some point) :
    decodeUtf8 surrogates (lead :: b :: c :: bytes) =
      (decodeUtf8 surrogates bytes).map (point :: ·) := by
  have noAscii : ¬ lead.toNat < 0x80 := by omega
  have noTail : ¬ lead.toNat < 0xC0 := by omega
  rw [decodeUtf8.eq_def]
  simp only [if_neg noAscii, if_neg noTail, if_neg (Nat.not_lt.mpr from3), if_pos below4, follows,
    thenFollows, found, Option.bind_eq_bind, Option.bind_some]
  cases decodeUtf8 surrogates bytes <;> rfl

theorem decodeUtf8_quadruple (from4 : 0xF0 ≤ lead.toNat) (below5 : lead.toNat < 0xF8)
    (follows : following? b = some first) (thenFollows : following? c = some second)
    (lastFollows : following? d = some third)
    (found : checkedPoint? surrogates 0x10000
      ((((lead.toNat - 0xF0) * 64 + first) * 64 + second) * 64 + third) = some point) :
    decodeUtf8 surrogates (lead :: b :: c :: d :: bytes) =
      (decodeUtf8 surrogates bytes).map (point :: ·) := by
  have noAscii : ¬ lead.toNat < 0x80 := by omega
  have noTail : ¬ lead.toNat < 0xC0 := by omega
  have noPair : ¬ lead.toNat < 0xE0 := by omega
  rw [decodeUtf8.eq_def]
  simp only [if_neg noAscii, if_neg noTail, if_neg noPair, if_neg (Nat.not_lt.mpr from4),
    if_pos below5, follows, thenFollows, lastFollows, found, Option.bind_eq_bind, Option.bind_some]
  cases decodeUtf8 surrogates bytes <;> rfl

end Sequences

theorem toNat_ofNat_of_lt {number : Nat} (fits : number < 256) :
    (UInt8.ofNat number).toNat = number := by
  rw [UInt8.toNat_ofNat']
  exact Nat.mod_eq_of_lt fits

theorem following?_low (low : Nat) : following? (.ofNat (0x80 + low % 64)) = some (low % 64) := by
  have byte : (UInt8.ofNat (0x80 + low % 64)).toNat = 0x80 + low % 64 :=
    toNat_ofNat_of_lt (by omega)
  rw [following?, byte, if_pos (by omega)]
  congr 1
  omega

theorem checkedPoint?_value {surrogates : Bool} {least value : Nat}
    (allowed : point.isSurrogate = true → surrogates = true) (whole : value = point.value)
    (shortest : least ≤ point.value) : checkedPoint? surrogates least value = some point := by
  rw [checkedPoint?, whole, if_neg (Nat.not_lt.mpr shortest), CodePoint.ofValue?_value]
  cases point with
  | scalar character => rfl
  | surrogate offset => rw [allowed rfl]; rfl

/-- The bytes of a code point are taken off at the front, and its parts are put together. -/
theorem decodeUtf8_point {surrogates : Bool}
    (allowed : point.isSurrogate = true → surrogates = true) (bytes : List UInt8) :
    decodeUtf8 surrogates (utf8Bytes point ++ bytes) =
      (decodeUtf8 surrogates bytes).map (point :: ·) := by
  have last := point.value_lt
  simp only [utf8Bytes, Nat.pow_eq, Nat.pow_zero, Nat.pow_one, Nat.div_one]
  by_cases one : point.value < 0x80
  · have lead := toNat_ofNat_of_lt (by omega : point.value < 256)
    rw [if_pos one]
    exact decodeUtf8_single (by omega) (by rw [lead, CodePoint.ofValue?_value])
  · rw [if_neg one]
    by_cases two : point.value < 0x800
    · have lead := toNat_ofNat_of_lt (by omega : 0xC0 + point.value / 64 < 256)
      rw [if_pos two]
      exact decodeUtf8_pair (by omega) (by omega) (following?_low _)
        (checkedPoint?_value allowed (by omega) (by omega))
    · rw [if_neg two]
      by_cases three : point.value < 0x10000
      · have lead := toNat_ofNat_of_lt (by omega : 0xE0 + point.value / 0x1000 < 256)
        rw [if_pos three]
        exact decodeUtf8_triple (by omega) (by omega) (following?_low _) (following?_low _)
          (checkedPoint?_value allowed (by omega) (by omega))
      · have lead := toNat_ofNat_of_lt (by omega : 0xF0 + point.value / 0x40000 < 256)
        rw [if_neg three]
        exact decodeUtf8_quadruple (by omega) (by omega) (following?_low _) (following?_low _)
          (following?_low _) (checkedPoint?_value allowed (by omega) (by omega))

theorem decodeUtf8_encode {surrogates : Bool}
    (allowed : ∀ point ∈ text, point.isSurrogate = true → surrogates = true) :
    decodeUtf8 surrogates (utf8.encode text) = some text := by
  induction text with
  | nil => rfl
  | cons point text ih =>
      obtain ⟨here, later⟩ := List.forall_mem_cons.mp allowed
      rw [encode, List.flatMap_cons, ← encode, pointBytes, decodeUtf8_point here, ih later,
        Option.map_some]

theorem decode_encode (encoding : Encoding) (scalar : text.Scalar) :
    encoding.decode (encoding.encode text) = some text := by
  cases encoding with
  | utf8 => exact decodeUtf8_encode fun _ _ _ => rfl
  | utf16 order => rw [decode, utf16Units?_encode, Option.map_some, foldr_units scalar]
  | utf32 order => exact decodeUtf32_encode text

end Formulary.Encoding
