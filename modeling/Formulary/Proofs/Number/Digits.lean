import Mathlib.Tactic.Ring
import Formulary.Number.Numeral

namespace Formulary

/-! # Digits

Digits that are written are read back, up to the first code point that is no
digit.  The digits of a number have its value, have no zero in front unless the
number is zero, and are as many as its magnitude requires.
-/

namespace CodePoint

@[simp] theorem digit?_ofDigit (digit : Digit) (hexadecimal : 10 ≤ 16) :
    (ofDigit (digit.castLE hexadecimal)).digit? = some digit := by
  have each : ∀ digit : Digit, (ofDigit (digit.castLE (by decide))).digit? = some digit := by
    decide
  exact each digit

@[simp] theorem hexDigit?_ofDigit (digit : Fin 16) : (ofDigit digit).hexDigit? = some digit := by
  revert digit
  decide

end CodePoint

namespace Numeral

variable {number : Nat} {digits following : List Digit} {rest : Text}

theorem notMem_write {point : CodePoint} (other : point.digit? = none) : point ∉ write digits := by
  intro listed
  obtain ⟨digit, _, same⟩ := List.mem_map.mp listed
  rw [← same, CodePoint.digit?_ofDigit] at other
  cases other

/-- No digit stands at the start of what follows. -/
def NoDigit (text : Text) : Prop :=
  ∀ point rest, text = point :: rest → point.digit? = none

theorem takeDigits_of_noDigit (stops : NoDigit rest) : takeDigits rest = ([], rest) := by
  cases rest with
  | nil => rfl
  | cons point rest => simp only [takeDigits, stops point rest rfl]

theorem takeDigits_write (stops : NoDigit rest) :
    takeDigits (write digits ++ rest) = (digits, rest) := by
  induction digits with
  | nil => exact takeDigits_of_noDigit stops
  | cons digit digits ih =>
      have leads : write (digit :: digits) ++ rest =
          .ofDigit (digit.castLE (by omega)) :: (write digits ++ rest) := rfl
      simp only [leads, takeDigits, CodePoint.digit?_ofDigit, ih]

theorem foldl_value (total : Nat) :
    digits.foldl (fun total digit => 10 * total + digit.val) total =
      total * 10 ^ digits.length + value digits := by
  induction digits generalizing total with
  | nil => simp [value]
  | cons digit digits ih =>
      simp only [value, List.foldl_cons, List.length_cons]
      rw [ih, ih (10 * 0 + digit.val)]
      ring

theorem value_cons (digit : Digit) :
    value (digit :: digits) = digit.val * 10 ^ digits.length + value digits := by
  rw [value, List.foldl_cons, foldl_value]
  simp

theorem value_digitsOnto :
    value (digitsOnto number following) = number * 10 ^ following.length + value following := by
  induction number, following using digitsOnto.induct with
  | case1 number following small =>
      rw [digitsOnto, if_pos small, value_cons]
      simp [Nat.mod_eq_of_lt small]
  | case2 number following large ih =>
      have parts : number = 10 * (number / 10) + number % 10 := (Nat.div_add_mod number 10).symm
      rw [digitsOnto, if_neg large, ih, value_cons, List.length_cons, Fin.val_ofNat]
      calc number / 10 * 10 ^ (following.length + 1) +
            (number % 10 * 10 ^ following.length + value following)
          = (10 * (number / 10) + number % 10) * 10 ^ following.length + value following := by ring
        _ = number * 10 ^ following.length + value following := by rw [← parts]

@[simp] theorem value_digits (number : Nat) : value (Numeral.digits number) = number := by
  rw [Numeral.digits, value_digitsOnto]
  simp [value]

theorem length_digitsOnto_le {width : Nat} (some : 0 < width) (below : number < 10 ^ width) :
    (digitsOnto number following).length ≤ width + following.length := by
  induction number, following using digitsOnto.induct generalizing width with
  | case1 number following small =>
      rw [digitsOnto, if_pos small, List.length_cons]
      omega
  | case2 number following large ih =>
      obtain ⟨width, rfl⟩ : ∃ less, width = less + 1 := ⟨width - 1, by omega⟩
      have most : 10 ^ width ≠ 1 := by
        intro one
        rw [Nat.pow_succ, one] at below
        omega
      have shorter : number / 10 < 10 ^ width :=
        Nat.div_lt_of_lt_mul (by rwa [Nat.pow_succ, Nat.mul_comm] at below)
      have positive : 0 < width := Nat.pos_of_ne_zero fun none => most (by rw [none, Nat.pow_zero])
      have bound := ih positive shorter
      rw [digitsOnto, if_neg large]
      simp only [List.length_cons] at bound
      omega

theorem length_digits_le {width : Nat} (some : 0 < width) (below : number < 10 ^ width) :
    (Numeral.digits number).length ≤ width :=
  length_digitsOnto_le some below

/-- A number that is not zero has no zero in front of its digits. -/
theorem digitsOnto_eq_cons (nonzero : number ≠ 0) :
    ∃ first others, digitsOnto number following = first :: others ∧ first.val ≠ 0 := by
  induction number, following using digitsOnto.induct with
  | case1 number following small =>
      refine ⟨Fin.ofNat 10 number, following, by rw [digitsOnto, if_pos small], ?_⟩
      rwa [Fin.val_ofNat, Nat.mod_eq_of_lt small]
  | case2 number following large ih =>
      obtain ⟨first, others, same, leads⟩ := ih (by omega)
      exact ⟨first, others, by rw [digitsOnto, if_neg large, same], leads⟩

theorem digits_eq_cons (nonzero : number ≠ 0) :
    ∃ first others, Numeral.digits number = first :: others ∧ first.val ≠ 0 :=
  digitsOnto_eq_cons nonzero

theorem digits_zero : Numeral.digits 0 = [⟨0, by decide⟩] := by
  rw [Numeral.digits, digitsOnto, if_pos (by decide)]
  rfl

theorem digits_ne_nil (number : Nat) : Numeral.digits number ≠ [] := by
  by_cases zero : number = 0
  · rw [zero, digits_zero]
    exact List.cons_ne_nil _ _
  · obtain ⟨first, others, same, _⟩ := digits_eq_cons zero
    rw [same]
    exact List.cons_ne_nil _ _

/-- The last hexadecimal digits of a number, as many as there are places. -/
def hexPlaces : Nat → Nat → Text
  | 0, _ => []
  | places + 1, number =>
    hexPlaces places (number / 16) ++ [.ofDigit ⟨number % 16, Nat.mod_lt number (by decide)⟩]

theorem hexPlaces_succ (places number : Nat) :
    hexPlaces (places + 1) number =
      hexPlaces places (number / 16) ++ [.ofDigit (Fin.ofNat 16 number)] := rfl

theorem hexPlaces_zero (places : Nat) :
    hexPlaces places 0 = List.replicate places (.scalar '0') := by
  induction places with
  | zero => rfl
  | succ places ih =>
      have zero : CodePoint.ofDigit (Fin.ofNat 16 0) = .scalar '0' := by decide
      rw [hexPlaces_succ, Nat.zero_div, ih, zero, List.replicate_succ']

theorem hexOnto_padded {places number : Nat} (following : Text) (some : 0 < places)
    (fits : number < 16 ^ places) :
    List.replicate (places + following.length - (hexOnto number following).length) (.scalar '0') ++
      hexOnto number following = hexPlaces places number ++ following := by
  obtain ⟨places, rfl⟩ : ∃ less, places = less + 1 := ⟨places - 1, by omega⟩
  induction number, following using hexOnto.induct generalizing places with
  | case1 number following small =>
      have padding : places + 1 + following.length - (following.length + 1) = places := by omega
      rw [hexOnto, if_pos small, hexPlaces_succ, Nat.div_eq_of_lt small, hexPlaces_zero,
        List.length_cons, padding, List.append_assoc, List.singleton_append]
  | case2 number following large ih =>
      obtain ⟨less, rfl⟩ : ∃ less, places = less + 1 := by
        refine ⟨places - 1, ?_⟩
        have more : places ≠ 0 := by
          rintro rfl
          simp only [zero_add, pow_one] at fits
          omega
        omega
      have inside := ih less (by omega)
        (Nat.div_lt_of_lt_mul (by rwa [pow_succ, Nat.mul_comm] at fits))
      have shift : less + 1 + 1 + following.length =
          less + 1 + (CodePoint.ofDigit (Fin.ofNat 16 number) :: following).length := by
        rw [List.length_cons]
        omega
      rw [hexOnto, if_neg large, shift, inside, hexPlaces_succ (less + 1) number,
        List.append_assoc, List.singleton_append]

theorem hex_eq_hexPlaces {places number : Nat} (some : 0 < places) (fits : number < 16 ^ places) :
    hex places number = hexPlaces places number := by
  have padded := hexOnto_padded [] some fits
  simpa [hex] using padded

end Numeral

end Formulary
