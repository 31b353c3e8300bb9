import Mathlib.Data.List.Forall2
import Formulary.Document.Validation
import Formulary.Proofs.Json.Members

namespace Formulary

/-! # Reordered values

Two values that differ only in the order of the members of objects, at any
depth.  Looking a member up gives reordered values again, and what validation
and messages ask about a value as a whole has the same answer for both.
-/

namespace Json

/-- The same value but for the order of members: arrays agree at each place, and
objects, whose names are distinct, at each name. -/
inductive Reordered : Json → Json → Prop where
  | same (value : Json) : Reordered value value
  | array {items others : List Json} (length : items.length = others.length)
      (inside : ∀ (place : Nat) (item other : Json), items[place]? = some item →
        others[place]? = some other → Reordered item other) :
      Reordered (.array items) (.array others)
  | object {fields others : Fields} (distinct : fields.names.Nodup)
      (names : fields.names.Perm others.names)
      (inside : ∀ name value other, Fields.get? name fields = some value →
        Fields.get? name others = some other → Reordered value other) :
      Reordered (.object fields) (.object others)

end Json

/-- The members of one object are reordered members of another. -/
structure Fields.Reordered (fields others : Fields) : Prop where
  names : fields.names.Perm others.names
  member : ∀ name, (fields.get? name = none ∧ others.get? name = none) ∨
    ∃ value other, fields.get? name = some value ∧ others.get? name = some other ∧
      value.Reordered other

namespace Fields.Reordered

variable {fields others : Fields}

theorem refl (fields : Fields) : fields.Reordered fields := by
  refine ⟨.refl _, fun name => ?_⟩
  cases found : fields.get? name with
  | none => exact .inl ⟨rfl, rfl⟩
  | some value => exact .inr ⟨value, value, rfl, rfl, .same value⟩

theorem length (same : fields.Reordered others) : fields.length = others.length := by
  rw [← length_names, same.names.length_eq, length_names]

end Fields.Reordered

namespace Json

variable {value other : Json}

theorem Reordered.of_object {fields : Fields} (same : (Json.object fields).Reordered other) :
    ∃ others, other = .object others ∧ fields.Reordered others := by
  cases same with
  | same => exact ⟨fields, rfl, .refl fields⟩
  | @object _ others distinct names inside =>
      refine ⟨others, rfl, names, fun name => ?_⟩
      cases found : Fields.get? name fields with
      | none =>
          have absent := Fields.get?_eq_none_iff.mp found
          rw [names.mem_iff, ← Fields.get?_eq_none_iff] at absent
          exact .inl ⟨rfl, absent⟩
      | some value =>
          obtain ⟨other, present⟩ :=
            Fields.mem_names_iff.mp (names.mem_iff.mp (Fields.mem_names_of_get? found))
          exact .inr ⟨value, other, rfl, present, inside name value other found present⟩

theorem Reordered.fields {fields others : Fields}
    (same : (Json.object fields).Reordered (.object others)) : fields.Reordered others := by
  obtain ⟨_, equal, members⟩ := same.of_object
  cases equal
  exact members

theorem Reordered.of_array {items : List Json} (same : (Json.array items).Reordered other) :
    ∃ others, other = .array others := by
  cases same with
  | same => exact ⟨items, rfl⟩
  | @array _ others length inside => exact ⟨others, rfl⟩

theorem Reordered.isTruthy (same : value.Reordered other) : value.isTruthy = other.isTruthy := by
  cases same <;> rfl

theorem Reordered.operator? (same : value.Reordered other) :
    Document.operator? value = Document.operator? other := by
  cases same <;> rfl

/-! ## Arrays -/

/-- What holds of the items of two arrays at each place holds along the arrays. -/
theorem forall₂_of_places {related : Json → Json → Prop} {items others : List Json}
    (length : items.length = others.length)
    (inside : ∀ (place : Nat) (item other : Json), items[place]? = some item →
      others[place]? = some other → related item other) :
    List.Forall₂ related items others := by
  refine List.forall₂_iff_get.mpr ⟨length, fun place onLeft onRight => ?_⟩
  exact inside place _ _ (List.getElem?_eq_getElem onLeft) (List.getElem?_eq_getElem onRight)

theorem arrayNestingOfItems_congr {items others : List Json}
    (same : List.Forall₂ (fun item other => item.arrayNesting = other.arrayNesting) items others) :
    arrayNestingOfItems items = arrayNestingOfItems others := by
  induction same with
  | nil => rfl
  | cons first rest ih => rw [arrayNestingOfItems, arrayNestingOfItems, first, ih]

theorem Reordered.arrayNesting (same : value.Reordered other) :
    value.arrayNesting = other.arrayNesting := by
  induction same with
  | same value => rfl
  | array length inside ih =>
      have items := arrayNestingOfItems_congr (forall₂_of_places length ih)
      rw [Json.arrayNesting, Json.arrayNesting, items]
  | object distinct names inside ih => rfl

theorem nestingOfItems_congr {items others : List Json}
    (same : List.Forall₂ (fun item other => item.nesting = other.nesting) items others) :
    nestingOfItems items = nestingOfItems others := by
  induction same with
  | nil => rfl
  | cons first rest ih => rw [nestingOfItems, nestingOfItems, first, ih]

theorem Reordered.nesting (same : value.Reordered other) : value.nesting = other.nesting := by
  induction same with
  | same value => rfl
  | array length inside ih =>
      have items := nestingOfItems_congr (forall₂_of_places length ih)
      rw [Json.nesting, Json.nesting, items]
  | @object fields others distinct names inside ih =>
      have atMost : nestingOfFields others ≤ nestingOfFields fields :=
        Fields.nesting_mono (names.nodup_iff.mp distinct) names.symm.subset
          fun name value other found present =>
            Nat.le_of_eq (ih name value other found present).symm
      have atLeast : nestingOfFields fields ≤ nestingOfFields others :=
        Fields.nesting_mono distinct names.subset
          fun name other value present found => Nat.le_of_eq (ih name value other found present)
      rw [Json.nesting, Json.nesting, Nat.le_antisymm atMost atLeast]

theorem inSentenceItems_congr {items others : List Json}
    (same : List.Forall₂ (fun item other => inSentenceItem item = inSentenceItem other)
      items others) :
    inSentenceItems items = inSentenceItems others := by
  induction same with
  | nil => rfl
  | cons first rest ih =>
      cases rest with
      | nil => rw [inSentenceItems, inSentenceItems, first]
      | cons second rest =>
          simp only [inSentenceItems] at ih ⊢
          rw [first, ih]

theorem Reordered.inSentence (same : value.Reordered other) :
    value.inSentence = other.inSentence ∧ inSentenceItem value = inSentenceItem other := by
  induction same with
  | same value => exact ⟨rfl, rfl⟩
  | array length inside ih =>
      have items := inSentenceItems_congr (forall₂_of_places length
        fun place item other onLeft onRight => (ih place item other onLeft onRight).2)
      simp only [inSentenceItem, Json.inSentence, items, and_self]
  | object distinct names inside ih =>
      simp only [inSentenceItem, Json.inSentence, and_self]

end Json

end Formulary
