import Formulary.Proofs.Json.Written
import Formulary.Proofs.Outcome
import Formulary.Proofs.Text.CodePoint

namespace Formulary.Json

open CodePoint (zero)

/-! # How a text that is read starts

A text that is read starts with an ASCII character, and neither its first code
point nor its second is zero: no token holds a zero, no white space is one, and
what stands behind a value of one code point is no zero either.
-/

variable {constants : Constants} {fuel room : Nat} {point : CodePoint}
  {text rest remaining : Text} {digit : Digit} {digits : List Digit} {value : Json}

/-- The text starts with an ASCII character other than zero. -/
def Opens (text : Text) : Prop :=
  ∃ point rest, text = point :: rest ∧ 0 < point.value ∧ point.value < 0x80

theorem not_opens_zero (rest : Text) : ¬ Opens (zero :: rest) := by
  intro opens
  obtain ⟨point, rest, same, positive, _⟩ := opens
  cases same
  exact absurd positive (by decide)

theorem opens_of_isBlank (blank : isBlank point = true) : Opens (point :: rest) := by
  simp only [isBlank, Bool.or_eq_true, decide_eq_true_eq] at blank
  refine ⟨point, rest, rfl, ?_⟩
  rcases blank with ((same | same) | same) | same <;> subst same <;> decide

/-! ## The first code point -/

theorem takeDigits_opens (found : Numeral.takeDigits text = (digit :: digits, remaining)) :
    Opens text := by
  cases text with
  | nil => cases found
  | cons point rest =>
      refine ⟨point, rest, rfl, ?_⟩
      by_cases range : 48 ≤ point.value ∧ point.value < 58
      · omega
      · simp [Numeral.takeDigits, CodePoint.digit?, range] at found

theorem takeWhole_opens (found : takeWhole text = (digit :: digits, remaining)) : Opens text := by
  unfold takeWhole at found
  split at found
  · exact ⟨_, _, rfl, by decide⟩
  · exact takeDigits_opens found

theorem takeSign_unsigned (unsigned : point ≠ .scalar '-') :
    takeSign (point :: rest) = (false, point :: rest) := by
  unfold takeSign
  split
  · rename_i same
    cases same
    exact absurd rfl unsigned
  · rfl

theorem readNumber_opens {value : Number} (read : readNumber text = .ok (value, remaining)) :
    Opens text := by
  cases text with
  | nil => cases read
  | cons point rest =>
      by_cases minus : point = .scalar '-'
      · exact ⟨point, rest, rfl, by subst minus; decide⟩
      · simp only [readNumber, takeSign_unsigned minus] at read
        split at read
        · cases read
        · rename_i whole _ some found
          obtain ⟨digit, digits, same⟩ := List.exists_cons_of_ne_nil some
          exact takeWhole_opens (same ▸ found)

theorem readScalar_opens (read : readScalar constants text = .ok (value, remaining)) :
    Opens text := by
  unfold readScalar at read
  split at read
  · exact ⟨_, _, rfl, by decide⟩
  · exact ⟨_, _, rfl, by decide⟩
  · exact ⟨_, _, rfl, by decide⟩
  · exact ⟨_, _, rfl, by decide⟩
  · split at read
    · rename_i dropped
      exact ⟨_, _, dropStart?_eq_some dropped, by decide⟩
    · split at read
      · rename_i dropped
        exact ⟨_, _, dropStart?_eq_some dropped, by decide⟩
      · split at read
        · rename_i dropped
          exact ⟨_, _, dropStart?_eq_some dropped, by decide⟩
        · obtain ⟨found, number, _⟩ := Except.bind_eq_ok_iff.mp read
          exact readNumber_opens number

theorem readValue_opens (read : readValue constants fuel room text = .ok (value, remaining)) :
    Opens text := by
  cases fuel with
  | zero => cases read
  | succ fuel =>
      unfold readValue at read
      split at read
      · exact ⟨_, _, rfl, by decide⟩
      · exact ⟨_, _, rfl, by decide⟩
      · exact readScalar_opens read

/-! ## A zero behind the first code point

Whatever the first code point is, a reader that takes it stops there.
-/

theorem skipBlank_zero (rest : Text) : skipBlank (zero :: rest) = zero :: rest := rfl

theorem takeWhole_stops (found : takeWhole (point :: zero :: rest) = (digit :: digits, remaining)) :
    remaining = zero :: rest := by
  have noDigits : Numeral.takeDigits (zero :: rest) = ([], zero :: rest) := rfl
  unfold takeWhole at found
  split at found
  · rename_i same
    cases same
    cases found
    rfl
  · unfold Numeral.takeDigits at found
    split at found
    · rw [noDigits] at found
      cases found
      rfl
    · cases found

theorem readNumber_stops {value : Number}
    (read : readNumber (point :: zero :: rest) = .ok (value, remaining)) :
    remaining = zero :: rest := by
  by_cases minus : point = .scalar '-'
  · subst minus
    cases read
  · simp only [readNumber, takeSign_unsigned minus] at read
    split at read
    · cases read
    · rename_i whole _ some found
      obtain ⟨digit, digits, same⟩ := List.exists_cons_of_ne_nil some
      have behind := takeWhole_stops (same ▸ found)
      subst behind
      split at read
      · split at read
        · cases read
        · cases read
          rfl
      · cases read
        rfl

theorem readScalar_stops
    (read : readScalar constants (point :: zero :: rest) = .ok (value, remaining)) :
    remaining = zero :: rest := by
  unfold readScalar at read
  split at read
  · rename_i same
    cases same
    -- a string holds no control characters
    cases read
  · rename_i same
    cases same
  · rename_i same
    cases same
  · rename_i same
    cases same
  · split at read
    · rename_i dropped
      cases dropStart?_eq_some dropped
    · split at read
      · rename_i dropped
        cases dropStart?_eq_some dropped
      · split at read
        · rename_i dropped
          cases dropStart?_eq_some dropped
        · obtain ⟨found, number, result⟩ := Except.bind_eq_ok_iff.mp read
          cases result
          exact readNumber_stops number

theorem readItems_opens {items : List Json}
    (read : readItems constants fuel room text = .ok (items, remaining)) : Opens text := by
  cases fuel with
  | zero => cases read
  | succ fuel =>
      unfold readItems at read
      obtain ⟨item, first, _⟩ := Except.bind_eq_ok_iff.mp read
      exact readValue_opens first

theorem readValue_stops
    (read : readValue constants fuel room (point :: zero :: rest) = .ok (value, remaining)) :
    remaining = zero :: rest := by
  cases fuel with
  | zero => cases read
  | succ fuel =>
      unfold readValue at read
      split at read
      · rename_i same
        cases same
        cases room with
        | zero => cases read
        | succ room =>
            obtain ⟨found, items, _⟩ := Except.bind_eq_ok_iff.mp read
            exact (not_opens_zero rest (readItems_opens items)).elim
      · rename_i same
        cases same
        cases room with
        | zero => cases read
        | succ room =>
            -- the name of a member starts with a quote
            cases fuel <;> cases read
      · exact readScalar_stops read

/-! ## Texts -/

theorem readValue_of_read (accepted : read constants text = .ok value) :
    ∃ remaining, readValue constants (2 * text.length + 1) nestingLimit (skipBlank text) =
      .ok (value, remaining) ∧ skipBlank remaining = [] := by
  unfold read at accepted
  split at accepted
  · cases accepted
  · cases first : readValue constants (2 * text.length + 1) nestingLimit (skipBlank text) with
    | error reason =>
        rw [first] at accepted
        cases accepted
    | ok found =>
        obtain ⟨value, remaining⟩ := found
        rw [first, Except.ok_bind] at accepted
        cases final : skipBlank remaining with
        | nil =>
            simp only [final] at accepted
            cases accepted
            exact ⟨remaining, rfl, final⟩
        | cons point rest =>
            simp only [final] at accepted
            cases accepted

theorem opens_of_read (accepted : read constants text = .ok value) : Opens text := by
  obtain ⟨remaining, first, _⟩ := readValue_of_read accepted
  cases text with
  | nil => exact readValue_opens first
  | cons point rest =>
      by_cases blank : isBlank point = true
      · exact opens_of_isBlank blank
      · rw [skipBlank_cons (Bool.eq_false_iff.mpr blank)] at first
        exact readValue_opens first

/-- Behind the first code point of a text that is read stands no zero. -/
theorem ne_zero_of_read (accepted : read constants (point :: text) = .ok value) :
    text.head? ≠ some zero := by
  intro second
  obtain ⟨rest, same⟩ := List.head?_eq_some_iff.mp second
  subst same
  obtain ⟨remaining, first, final⟩ := readValue_of_read accepted
  by_cases blank : isBlank point = true
  · have skipped : skipBlank (point :: zero :: rest) = zero :: rest :=
      List.dropWhile_cons_of_pos blank
    rw [skipped] at first
    exact not_opens_zero rest (readValue_opens first)
  · rw [skipBlank_cons (Bool.eq_false_iff.mpr blank)] at first
    rw [readValue_stops first, skipBlank_zero] at final
    cases final

end Formulary.Json
