import Formulary.Proofs.Json.Opening
import Formulary.Proofs.Json.Strictness
import Formulary.Proofs.Number.NormalDecimal

namespace Formulary

/-! # Numerals in a text

An integer with more digits than can be written is not read either, so that
whatever has been read can be written again.
-/

theorem Numeral.value_lt_of_length_le {digits : List Digit} {limit : Nat}
    (short : digits.length ≤ limit) : value digits < Nat.pow 10 limit :=
  Nat.lt_of_lt_of_le value_lt (Nat.pow_le_pow_right (by decide) short)

namespace Json

variable {constants : Constants} {fuel : Nat} {text remaining : Text}

/-- All numbers in a value can be written. -/
def IsShort (value : Json) : Prop :=
  ∀ number ∈ value.numbers, number.isPrintable = true

theorem isShort_of_numberless {value : Json} (numberless : value.numbers = []) :
    value.IsShort := by
  rw [IsShort, numberless]
  exact List.forall_mem_nil _

theorem isShort_array {items : List Json} (inside : ∀ item ∈ items, item.IsShort) :
    (array items).IsShort := by
  intro number found
  rw [numbers] at found
  induction items with
  | nil => cases found
  | cons item items ih =>
      obtain ⟨here, later⟩ := List.forall_mem_cons.mp inside
      rw [numbersOfItems, List.mem_append] at found
      exact found.elim (here number) (ih later)

theorem isShort_object {members : List (Text × Json)}
    (inside : ∀ member ∈ members, member.2.IsShort) :
    (object (Fields.ofMembers members)).IsShort := by
  intro number found
  replace found := numbersOfFields_ofMembers found
  induction members with
  | nil => cases found
  | cons member members ih =>
      obtain ⟨here, later⟩ := List.forall_mem_cons.mp inside
      rw [numbersOfFields, List.mem_append] at found
      exact found.elim (here number) (ih later)

theorem readNumber_isPrintable {number : Number}
    (read : readNumber text = .ok (number, remaining)) : number.isPrintable = true := by
  simp only [readNumber] at read
  split at read
  · cases read
  · rename_i whole _ _ _
    split at read
    · split at read
      · cases read
      · rename_i short
        have below := Numeral.value_lt_of_length_le (Nat.not_lt.mp short)
        cases read
        rw [Number.isPrintable, decide_eq_true_iff]
        split
        · rwa [Int.natAbs_neg]
        · exact below
    · cases read
      rfl

theorem readConstant_isShort {value : Json} {found : Binary64} {rest : Text}
    (read : readConstant constants found rest = .ok (value, remaining)) : value.IsShort := by
  cases constants with
  | strict => cases read
  | lenient =>
      cases read
      intro number listed
      cases List.mem_singleton.mp listed
      rfl

theorem readScalar_isShort {value : Json}
    (read : readScalar constants text = .ok (value, remaining)) : value.IsShort := by
  unfold readScalar at read
  split at read
  · obtain ⟨_, _, read⟩ := Except.bind_eq_ok_iff.mp read
    cases read
    exact isShort_of_numberless rfl
  · cases read
    exact isShort_of_numberless rfl
  · cases read
    exact isShort_of_numberless rfl
  · cases read
    exact isShort_of_numberless rfl
  · repeat' split at read
    · exact readConstant_isShort read
    · exact readConstant_isShort read
    · exact readConstant_isShort read
    · obtain ⟨⟨number, _⟩, first, read⟩ := Except.bind_eq_ok_iff.mp read
      cases read
      intro other listed
      cases List.mem_singleton.mp listed
      exact readNumber_isPrintable first

/-! ## Readers -/

/-- What the three readers give, down to a number of steps. -/
structure ReadShort (constants : Constants) (fuel : Nat) : Prop where
  value : ∀ {room : Nat} {text remaining : Text} {value : Json},
    readValue constants fuel room text = .ok (value, remaining) → value.IsShort
  items : ∀ {room : Nat} {text remaining : Text} {items : List Json},
    readItems constants fuel room text = .ok (items, remaining) → ∀ item ∈ items, item.IsShort
  members : ∀ {room : Nat} {text remaining : Text} {members : List (Text × Json)},
    readMembers constants fuel room text = .ok (members, remaining) →
      ∀ member ∈ members, member.2.IsShort

theorem readValue_isShort (inside : ReadShort constants fuel) {room : Nat} {value : Json}
    (read : readValue constants (fuel + 1) room text = .ok (value, remaining)) :
    value.IsShort := by
  unfold readValue at read
  split at read
  · split at read
    · cases read
    · split at read
      · cases read
        exact isShort_of_numberless rfl
      · obtain ⟨_, items, read⟩ := Except.bind_eq_ok_iff.mp read
        cases read
        exact isShort_array (inside.items items)
  · split at read
    · cases read
    · split at read
      · cases read
        exact isShort_of_numberless rfl
      · obtain ⟨_, members, read⟩ := Except.bind_eq_ok_iff.mp read
        cases read
        exact isShort_object (inside.members members)
  · exact readScalar_isShort read

theorem readItems_isShort (inside : ReadShort constants fuel) {room : Nat} {items : List Json}
    (read : readItems constants (fuel + 1) room text = .ok (items, remaining)) :
    ∀ item ∈ items, item.IsShort := by
  unfold readItems at read
  obtain ⟨⟨item, _⟩, first, read⟩ := Except.bind_eq_ok_iff.mp read
  have short := inside.value first
  dsimp only at read
  split at read
  · cases read
    exact List.forall_mem_singleton.mpr short
  · obtain ⟨_, later, read⟩ := Except.bind_eq_ok_iff.mp read
    cases read
    exact List.forall_mem_cons.mpr ⟨short, inside.items later⟩
  · cases read

theorem readMembers_isShort (inside : ReadShort constants fuel) {room : Nat}
    {members : List (Text × Json)}
    (read : readMembers constants (fuel + 1) room text = .ok (members, remaining)) :
    ∀ member ∈ members, member.2.IsShort := by
  unfold readMembers at read
  split at read
  · obtain ⟨⟨name, _⟩, _, read⟩ := Except.bind_eq_ok_iff.mp read
    dsimp only at read
    split at read
    · obtain ⟨⟨value, _⟩, first, read⟩ := Except.bind_eq_ok_iff.mp read
      have short := inside.value first
      dsimp only at read
      split at read
      · cases read
        exact List.forall_mem_singleton.mpr short
      · obtain ⟨_, later, read⟩ := Except.bind_eq_ok_iff.mp read
        cases read
        exact List.forall_mem_cons.mpr ⟨short, inside.members later⟩
      · cases read
    · cases read
  · cases read

theorem readShort (constants : Constants) (fuel : Nat) : ReadShort constants fuel := by
  induction fuel with
  | zero => exact ⟨nofun, nofun, nofun⟩
  | succ fuel ih => exact ⟨readValue_isShort ih, readItems_isShort ih, readMembers_isShort ih⟩

/-- Every number in a text that has been read can be written. -/
theorem isShort_of_read {value : Json} (accepted : read constants text = .ok value) :
    value.IsShort := by
  obtain ⟨_, found, _⟩ := readValue_of_read accepted
  exact (readShort constants _).value found

theorem mem_numbers_of_get? {fields : Fields} {name : Text} {number : Number}
    (present : fields.get? name = some (.number number)) : number ∈ (object fields).numbers := by
  rw [numbers]
  induction fields with
  | nil => cases present
  | cons member fields ih =>
      obtain ⟨key, value⟩ := member
      rw [numbersOfFields, List.mem_append]
      rw [Fields.get?] at present
      split at present
      · cases present
        exact .inl (List.mem_singleton.mpr rfl)
      · exact .inr (ih present)

end Json

end Formulary
