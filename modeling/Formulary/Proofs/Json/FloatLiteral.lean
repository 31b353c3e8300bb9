import Formulary.Proofs.Json.NumberToken

namespace Formulary

/-! # Literals of floats

The literal of a finite float is a number token that is read as the float: the
digits of its shortest decimal, with the point in its place or with an exponent.
-/

namespace Numeral

theorem write_append (digits others : List Digit) :
    write (digits ++ others) = write digits ++ write others := List.map_append

theorem write_zeros (count : Nat) :
    write (List.replicate count ⟨0, by decide⟩) = Layout.zeros count := List.map_replicate

theorem value_replicate_zero (count : Nat) :
    value (List.replicate count ⟨0, by decide⟩) = 0 :=
  value_zeros fun digit member => by rw [List.eq_of_mem_replicate member]

theorem padded_eq (width number : Nat) : ∃ places, padded width number = write places ∧
    places ≠ [] ∧ value places = number := by
  refine ⟨List.replicate (width - (ofNat number).length) ⟨0, by decide⟩ ++ digits number,
    ?_, ?_, ?_⟩
  · rw [write_append, write_zeros]
    rfl
  · simp [digits_ne_nil]
  · rw [value_append, value_replicate_zero, value_digits, Nat.zero_mul, Nat.zero_add]

end Numeral

open Numeral

namespace Json

/-- A token of some parts writes the float that the decimal of these parts is read as. -/
theorem NumberWritten.ofParts {negative : Bool} {whole fraction : List Digit} {power : Int}
    {value : Binary64} {fractionText exponentText text : Text} (unpadded : Unpadded whole)
    (fractional : FractionWritten fraction fractionText)
    (exponential : ExponentWritten power exponentText)
    (noInteger : fractionText ++ exponentText ≠ [])
    (float : Binary64.ofDecimal negative (Numeral.value (whole ++ fraction))
      (power - fraction.length) = value)
    (parts : write whole ++ (fractionText ++ exponentText) = text) :
    NumberWritten (.float value) (signed negative text) := by
  subst float parts
  exact .float negative unpadded fractional exponential noInteger

end Json

namespace Layout

open Json

variable {first : Digit} {rest : List Digit} (negative : Bool) (exponent : Int)

theorem positional_written (leads : first.val ≠ 0) :
    NumberWritten (.float (.ofDecimal negative (value (first :: rest)) exponent))
      (signed negative (Layout.literal.positional (first :: rest) exponent)) := by
  simp only [positional]
  split
  · rename_i upward
    -- the digits, zeros up to the point, and a zero behind it
    have unpadded : Unpadded (first :: rest ++ List.replicate exponent.natAbs ⟨0, by decide⟩) :=
      .digits leads
    have fraction : FractionWritten [⟨0, by decide⟩] ".0" := .some (List.cons_ne_nil _ _)
    refine .ofParts unpadded fraction .none (by decide) ?_ ?_
    · have coefficient : value (first :: rest ++ List.replicate exponent.natAbs ⟨0, by decide⟩ ++
          [⟨0, by decide⟩]) = value (first :: rest) * 10 ^ (exponent.natAbs + 1) := by
        rw [List.append_assoc, ← List.replicate_succ', value_append, value_replicate_zero,
          List.length_replicate, Nat.add_zero]
      have places : (0 : Int) - [(⟨0, by decide⟩ : Digit)].length =
          exponent - (exponent.natAbs + 1 : Nat) := by
        rw [List.length_singleton]
        omega
      rw [coefficient, places, Binary64.ofDecimal_shift]
    · rw [write_append, write_zeros, List.append_nil]
      rfl
  · rename_i downward
    split
    · rename_i some
      have point : ((first :: rest).length + exponent).natAbs < (first :: rest).length := by omega
      obtain ⟨places, count⟩ :
          ∃ places, ((first :: rest).length + exponent).natAbs = places + 1 :=
        ⟨((first :: rest).length + exponent).natAbs - 1, by omega⟩
      have behind : (first :: rest).drop (places + 1) ≠ [] := by
        rw [ne_eq, List.drop_eq_nil_iff]
        omega
      have unpadded : Unpadded ((first :: rest).take (places + 1)) := .digits leads
      rw [count] at point ⊢
      refine .ofParts unpadded (.some behind) .none (by simp) ?_ ?_
      · have length : (0 : Int) - ((first :: rest).drop (places + 1)).length = exponent := by
          rw [List.length_drop]
          omega
        rw [List.take_append_drop, length]
      · rw [List.append_nil, List.append_assoc]
        rfl
    · rename_i none
      have behind : List.replicate ((first :: rest).length + exponent).natAbs ⟨0, by decide⟩ ++
          first :: rest ≠ [] := by simp
      refine .ofParts .zero (.some behind) .none (by simp) ?_ ?_
      · have length : (0 : Int) - (List.replicate ((first :: rest).length + exponent).natAbs
            (⟨0, by decide⟩ : Digit) ++ first :: rest).length = exponent := by
          rw [List.length_append, List.length_replicate]
          omega
        rw [length, value_append, value_append, value_replicate_zero, Nat.zero_mul, Nat.zero_add]
        simp [value]
      · rw [write_append, write_zeros, List.append_nil, List.append_assoc]
        rfl

theorem scientific_written (leads : first.val ≠ 0) :
    NumberWritten (.float (.ofDecimal negative (value (first :: rest)) exponent))
      (signed negative (Layout.literal.scientific (first :: rest) exponent)) := by
  simp only [scientific]
  generalize power : ((first :: rest).length : Int) + exponent - 1 = places
  obtain ⟨digits, padded, some, magnitude⟩ :=
    padded_eq Layout.literal.exponentWidth places.natAbs
  have valued : (if decide (places < 0) then -(value digits : Int) else value digits) = places := by
    rw [magnitude]
    simp only [decide_eq_true_eq]
    split <;> omega
  have exponential := ExponentWritten.some (decide (places < 0)) some
  rw [valued, ← padded] at exponential
  simp only [decide_eq_true_eq] at exponential
  have marked : (if places < 0 then "e-" else "e+" : Text) ++
      Numeral.padded Layout.literal.exponentWidth places.natAbs ≠ [] := by
    split <;> simp [Text.ofString]
  have unpadded : Unpadded [first] := .digits leads
  cases rest with
  | nil =>
      refine .ofParts unpadded .none exponential marked ?_ ?_
      · have length : places - ([] : List Digit).length = exponent := by
          simp only [List.length_cons, List.length_nil] at power ⊢
          omega
        rw [length, List.append_nil]
      · simp
  | cons next rest =>
      refine .ofParts unpadded (.some (List.cons_ne_nil next rest)) exponential (by simp) ?_ ?_
      · have length : places - (next :: rest).length = exponent := by
          simp only [List.length_cons] at power ⊢
          omega
        rw [length]
        rfl
      · simp [Text.ofString]

theorem write_written {decimal : Decimal} (digits : decimal.digits = first :: rest)
    (leads : first.val ≠ 0) :
    NumberWritten (.float decimal.float) (Layout.literal.write decimal) := by
  have sign : Layout.literal.write decimal = signed decimal.negative _ := rfl
  rw [sign, Decimal.float, digits]
  split
  · exact positional_written _ _ leads
  · exact scientific_written _ _ leads

end Layout

namespace Number

theorem floatLiteral_written (negative : Bool) (rank : Fin Binary64.infinityRank) :
    Json.NumberWritten (.float (.finite negative rank)) (floatLiteral (.finite negative rank)) := by
  rw [floatLiteral]
  split
  · rename_i zero
    have float : Binary64.ofDecimal negative (value ([⟨0, by decide⟩] ++ [⟨0, by decide⟩]))
        (0 - [(⟨0, by decide⟩ : Digit)].length) = .finite negative rank := by
      have none : value ([⟨0, by decide⟩] ++ [⟨0, by decide⟩]) = 0 := rfl
      have least : (⟨0, by decide⟩ : Fin Binary64.infinityRank) = rank := Fin.eq_of_val_eq zero.symm
      rw [none, Binary64.ofDecimal_zero, Binary64.zero, least]
    have token := Json.NumberWritten.ofParts .zero (.some (List.cons_ne_nil _ _)) .none (by simp)
      float rfl
    cases negative <;> exact token
  · rename_i nonzero
    obtain ⟨float, first, rest, digits, leads⟩ := Binary64.shortest_float negative nonzero
    rw [writeFinite, ← float]
    exact Layout.write_written digits leads

example : floatLiteral (.ofDecimal true 15 23) = "-1.5e+24" := by decide +kernel

end Number

end Formulary
