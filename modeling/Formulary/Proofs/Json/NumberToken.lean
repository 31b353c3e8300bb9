import Formulary.Json.Reader
import Formulary.Proofs.Number.Shortest

namespace Formulary.Json

/-! # Number tokens

A written integer is read as that integer.  A number with a fraction or an
exponent is read as the float of its decimal, whatever follows the number.
-/

variable {constants : Constants} {text following : Text}

/-- What can stand behind a value: white space, a comma or a closing bracket. -/
def followers : List CodePoint :=
  [.scalar ' ', .scalar '\t', .scalar '\n', .scalar '\r', .scalar ',', .scalar ']', .scalar '}']

theorem mem_followers_of_isBlank {point : CodePoint} (blank : isBlank point = true) :
    point ∈ followers := by
  simp only [isBlank, Bool.or_eq_true, decide_eq_true_eq] at blank
  rcases blank with ((rfl | rfl) | rfl) | rfl <;> decide

theorem digit?_of_mem_followers {point : CodePoint} (listed : point ∈ followers) :
    point.digit? = none := by
  have none : ∀ point ∈ followers, point.digit? = none := by decide
  exact none point listed

def EndsValue (text : Text) : Prop :=
  ∀ point rest, text = point :: rest → point ∈ followers

theorem endsValue_cons {point : CodePoint} {rest : Text} (listed : point ∈ followers) :
    EndsValue (point :: rest) := by
  intro other others same
  cases same
  exact listed

theorem EndsValue.noDigit (ends : EndsValue following) : Numeral.NoDigit following := by
  intro point rest same
  exact digit?_of_mem_followers (ends point rest same)

theorem EndsValue.noFraction (ends : EndsValue following) : takeFraction following = none := by
  unfold takeFraction
  split
  · exact absurd (ends _ _ rfl) (by decide)
  · rfl

theorem EndsValue.noExponent (ends : EndsValue following) : takeExponent following = none := by
  unfold takeExponent
  split
  · exact absurd (ends _ _ rfl) (by decide)
  · exact absurd (ends _ _ rfl) (by decide)
  · rfl

/-- The digits of a whole number: a zero alone, or digits that start with no zero. -/
inductive Unpadded : List Digit → Prop where
  | zero : Unpadded [⟨0, by decide⟩]
  | digits {first : Digit} {rest : List Digit} (leads : first.val ≠ 0) : Unpadded (first :: rest)

theorem unpadded_digits (number : Nat) : Unpadded (Numeral.digits number) := by
  by_cases zero : number = 0
  · rw [zero, Numeral.digits_zero]
    exact .zero
  · obtain ⟨first, rest, digits, leads⟩ := Numeral.digits_eq_cons zero
    rw [digits]
    exact .digits leads

theorem Unpadded.ne_nil {digits : List Digit} (unpadded : Unpadded digits) : digits ≠ [] := by
  cases unpadded <;> exact List.cons_ne_nil _ _

theorem takeWhole_write {digits : List Digit} (unpadded : Unpadded digits)
    (stops : Numeral.NoDigit following) :
    takeWhole (Numeral.write digits ++ following) = (digits, following) := by
  cases unpadded with
  | zero => rfl
  | @digits first rest leads =>
      unfold takeWhole
      split
      · rename_i others same
        have digit := CodePoint.digit?_ofDigit first (by decide)
        rw [Numeral.write, List.map_cons, List.cons_append, List.cons.injEq] at same
        rw [same.1] at digit
        cases digit
        exact absurd rfl leads
      · exact Numeral.takeDigits_write stops

/-- A minus sign, if there is to be one, in front of the digits of a number. -/
def signed (negative : Bool) (unsigned : Text) : Text :=
  if negative then .scalar '-' :: unsigned else unsigned

theorem takeSign_signed (negative : Bool) {digits : List Digit} (some : digits ≠ [])
    (following : Text) :
    takeSign (signed negative (Numeral.write digits ++ following)) =
      (negative, Numeral.write digits ++ following) := by
  cases negative with
  | true => rfl
  | false =>
      obtain ⟨first, rest, rfl⟩ := List.exists_cons_of_ne_nil some
      unfold takeSign signed
      split
      · rename_i others starts
        have digit := CodePoint.digit?_ofDigit first (by decide)
        rw [if_neg Bool.false_ne_true, Numeral.write, List.map_cons, List.cons_append,
          List.cons.injEq] at starts
        rw [starts.1] at digit
        cases digit
      · rfl

theorem ofInt_eq_signed (value : Int) :
    Numeral.ofInt value = signed (value < 0) (Numeral.ofNat value.natAbs) := by
  simp [Numeral.ofInt, signed]

theorem signed_append (negative : Bool) (unsigned following : Text) :
    signed negative unsigned ++ following = signed negative (unsigned ++ following) := by
  cases negative <;> rfl

inductive FractionWritten : List Digit → Text → Prop where
  | none : FractionWritten [] []
  | some {digits : List Digit} (nonempty : digits ≠ []) :
      FractionWritten digits (.scalar '.' :: Numeral.write digits)

inductive ExponentWritten : Int → Text → Prop where
  | none : ExponentWritten 0 []
  | some (negative : Bool) {digits : List Digit} (nonempty : digits ≠ []) :
      ExponentWritten (if negative then -(Numeral.value digits : Int) else Numeral.value digits)
        ((if negative then "e-" else "e+" : Text) ++ Numeral.write digits)

/-- The text writes the number, from its sign to its last digit. -/
inductive NumberWritten : Number → Text → Prop where
  | integer {value : Int} (short : (Numeral.digits value.natAbs).length ≤ Number.digitLimit) :
      NumberWritten (.int value) (Numeral.ofInt value)
  | float (negative : Bool) {whole fraction : List Digit} {power : Int}
      {fractionText exponentText : Text} (unpadded : Unpadded whole)
      (fractional : FractionWritten fraction fractionText)
      (exponential : ExponentWritten power exponentText)
      (noInteger : fractionText ++ exponentText ≠ []) :
      NumberWritten
        (.float (.ofDecimal negative (Numeral.value (whole ++ fraction)) (power - fraction.length)))
        (signed negative (Numeral.write whole ++ (fractionText ++ exponentText)))

variable {value : Number} {digits : List Digit} {power : Int}

theorem takeFraction_written (written : FractionWritten digits text)
    (stops : Numeral.NoDigit following) (noPoint : takeFraction following = none) :
    (takeFraction (text ++ following)).getD ([], text ++ following) = (digits, following) ∧
      (takeFraction (text ++ following)).isNone = text.isEmpty := by
  cases written with
  | none => simp [noPoint]
  | some nonempty =>
      obtain ⟨first, rest, rfl⟩ := List.exists_cons_of_ne_nil nonempty
      have taken : Numeral.takeDigits (Numeral.write (first :: rest) ++ following) =
          (first :: rest, following) := Numeral.takeDigits_write stops
      simp [takeFraction, taken]

theorem takeExponent_written (written : ExponentWritten power text) (ends : EndsValue following) :
    (takeExponent (text ++ following)).getD (0, text ++ following) = (power, following) ∧
      (takeExponent (text ++ following)).isNone = text.isEmpty := by
  cases written with
  | none => simp [ends.noExponent]
  | @some negative digits nonempty =>
      obtain ⟨first, rest, rfl⟩ := List.exists_cons_of_ne_nil nonempty
      have taken : Numeral.takeDigits (Numeral.write (first :: rest) ++ following) =
          (first :: rest, following) := Numeral.takeDigits_write ends.noDigit
      cases negative <;> simp [takeExponent, Text.ofString, taken]

theorem ExponentWritten.starts (written : ExponentWritten power text) (ends : EndsValue following) :
    ∀ point rest, text ++ following = point :: rest →
      point = .scalar 'e' ∨ point ∈ followers := by
  intro point rest same
  cases written with
  | none => exact .inr (ends point rest same)
  | some negative nonempty => cases negative <;> exact .inl (List.cons.inj same).1.symm

theorem ExponentWritten.noDigit (written : ExponentWritten power text)
    (ends : EndsValue following) : Numeral.NoDigit (text ++ following) := by
  intro point rest same
  rcases written.starts ends point rest same with rfl | listed
  · rfl
  · exact digit?_of_mem_followers listed

theorem ExponentWritten.noFraction (written : ExponentWritten power text)
    (ends : EndsValue following) : takeFraction (text ++ following) = Option.none := by
  unfold takeFraction
  split
  · rename_i start
    exact absurd (written.starts ends _ _ start) (by decide)
  · rfl

theorem FractionWritten.noDigit {digits : List Digit} (written : FractionWritten digits text)
    (stops : Numeral.NoDigit following) : Numeral.NoDigit (text ++ following) := by
  cases written with
  | none => exact stops
  | some nonempty =>
      intro point rest same
      cases same
      rfl

theorem readNumber_ofInt {value : Int}
    (short : (Numeral.digits value.natAbs).length ≤ Number.digitLimit)
    (ends : EndsValue following) :
    readNumber (Numeral.ofInt value ++ following) = .ok (.int value, following) := by
  have unpadded := unpadded_digits value.natAbs
  have sign := takeSign_signed (decide (value < 0)) unpadded.ne_nil following
  have whole := takeWhole_write unpadded ends.noDigit
  have magnitude := Numeral.value_digits value.natAbs
  obtain ⟨first, others, digits⟩ := List.exists_cons_of_ne_nil unpadded.ne_nil
  rw [digits] at short magnitude sign whole
  have signedValue :
      (if decide (value < 0) then -(value.natAbs : Int) else value.natAbs) = value := by
    simp only [decide_eq_true_eq]
    split <;> omega
  rw [ofInt_eq_signed, signed_append, Numeral.ofNat, digits]
  simp only [readNumber, sign, whole, ends.noFraction, ends.noExponent, Option.getD_none,
    Option.isNone_none, Bool.and_self, if_true, if_neg (Nat.not_lt.mpr short), magnitude,
    signedValue]

theorem readNumber_float (negative : Bool) {whole fraction : List Digit}
    {fractionText exponentText : Text} (unpadded : Unpadded whole)
    (fractional : FractionWritten fraction fractionText)
    (exponential : ExponentWritten power exponentText)
    (noInteger : fractionText ++ exponentText ≠ []) (ends : EndsValue following) :
    readNumber (signed negative (Numeral.write whole ++ (fractionText ++ exponentText)) ++
        following) =
      .ok (.float (.ofDecimal negative (Numeral.value (whole ++ fraction))
        (power - fraction.length)), following) := by
  have stops := exponential.noDigit ends
  have sign := takeSign_signed negative unpadded.ne_nil
    (fractionText ++ (exponentText ++ following))
  have taken := takeWhole_write unpadded (fractional.noDigit stops)
  obtain ⟨fractionTaken, noFraction⟩ :=
    takeFraction_written fractional stops (exponential.noFraction ends)
  obtain ⟨exponentTaken, noExponent⟩ := takeExponent_written exponential ends
  have noInteger : (fractionText.isEmpty && exponentText.isEmpty) = false := by
    simpa [Bool.and_eq_false_imp] using noInteger
  obtain ⟨first, others, rfl⟩ := List.exists_cons_of_ne_nil unpadded.ne_nil
  rw [signed_append, List.append_assoc, List.append_assoc]
  simp only [readNumber, sign, taken, fractionTaken, noFraction, exponentTaken, noExponent,
    noInteger, Bool.false_eq_true, if_false]

theorem readNumber_written (written : NumberWritten value text) (ends : EndsValue following) :
    readNumber (text ++ following) = .ok (value, following) := by
  cases written with
  | integer short => exact readNumber_ofInt short ends
  | float negative unpadded fractional exponential noInteger =>
      exact readNumber_float negative unpadded fractional exponential noInteger ends

/-- Behind the sign, if there is one, stands a digit. -/
def StartsNumber (text : Text) : Prop :=
  ∃ point rest, (takeSign text).2 = point :: rest ∧ point.digit? ≠ none

theorem startsNumber_signed (negative : Bool) {digits : List Digit} (some : digits ≠ []) :
    StartsNumber (signed negative (Numeral.write digits ++ following)) := by
  obtain ⟨first, rest, rfl⟩ := List.exists_cons_of_ne_nil some
  refine ⟨_, _, by rw [takeSign_signed negative some]; rfl, ?_⟩
  simp [CodePoint.digit?_ofDigit]

theorem startsNumber_written (written : NumberWritten value text) (following : Text) :
    StartsNumber (text ++ following) := by
  cases written with
  | integer short =>
      rw [ofInt_eq_signed, signed_append]
      exact startsNumber_signed _ (Numeral.digits_ne_nil _)
  | float negative unpadded fractional exponential noInteger =>
      rw [signed_append, List.append_assoc]
      exact startsNumber_signed negative unpadded.ne_nil

theorem StartsNumber.eq_cons (starts : StartsNumber text) :
    ∃ point rest, text = point :: rest ∧ (point = .scalar '-' ∨ point.digit? ≠ none) := by
  obtain ⟨point, rest, unsigned, digit⟩ := starts
  unfold takeSign at unsigned
  split at unsigned
  · exact ⟨_, _, rfl, .inl rfl⟩
  · exact ⟨point, rest, unsigned, .inr digit⟩

theorem StartsNumber.not_of_unsigned {point : CodePoint} {rest : Text}
    (starts : StartsNumber (point :: rest)) (unsigned : point ≠ .scalar '-')
    (noDigit : point.digit? = none) : False := by
  obtain ⟨_, _, same, minus | digit⟩ := starts.eq_cons <;> cases same
  · exact unsigned minus
  · exact digit noDigit

theorem dropStart?_eq_some {start : Text} (dropped : Text.dropStart? start text = some following) :
    text = start ++ following := by
  induction start generalizing text with
  | nil =>
      simp only [Text.dropStart?, Option.some.injEq] at dropped
      exact dropped
  | cons expected start ih =>
      cases text with
      | nil => cases dropped
      | cons point rest =>
          simp only [Text.dropStart?] at dropped
          split at dropped
          · rename_i same
            rw [same, ih dropped, List.cons_append]
          · cases dropped

theorem readScalar_number (starts : StartsNumber text) :
    readScalar constants text = (readNumber text).map fun found => (.number found.1, found.2) := by
  have none {start : Text} (other : ∀ rest, ¬ StartsNumber (start ++ rest)) :
      Text.dropStart? start text = none := by
    cases dropped : Text.dropStart? start text with
    | none => rfl
    | some rest => exact absurd (dropStart?_eq_some dropped ▸ starts) (other rest)
  unfold readScalar
  split
  · exact (starts.not_of_unsigned (by decide) rfl).elim
  · exact (starts.not_of_unsigned (by decide) rfl).elim
  · exact (starts.not_of_unsigned (by decide) rfl).elim
  · exact (starts.not_of_unsigned (by decide) rfl).elim
  · have nan : Text.dropStart? "NaN" text = Option.none :=
      none fun rest starts => starts.not_of_unsigned (by decide) rfl
    have infinity : Text.dropStart? "Infinity" text = Option.none :=
      none fun rest starts => starts.not_of_unsigned (by decide) rfl
    have negative : Text.dropStart? "-Infinity" text = Option.none := by
      refine none fun rest starts => ?_
      obtain ⟨point, others, same, digit⟩ := starts
      cases same
      exact digit rfl
    simp only [nan, infinity, negative]
    cases readNumber text <;> rfl

theorem readValue_number {fuel room : Nat} (starts : StartsNumber text) :
    readValue constants (fuel + 1) room text = readScalar constants text := by
  unfold readValue
  split
  · exact (starts.not_of_unsigned (by decide) rfl).elim
  · exact (starts.not_of_unsigned (by decide) rfl).elim
  · rfl

end Formulary.Json
