import Mathlib.Data.List.Basic
import Formulary.Proofs.Text.CodePoint

namespace Formulary

/-! # The order of texts

Texts are ordered like the lists of the numbers of their code points, so the
order is total, and the first of some texts is well defined.
-/

namespace Text

def values (text : Text) : List Nat := text.map CodePoint.value

theorem values_injective : Function.Injective values :=
  CodePoint.value_injective.list_map

theorem before_iff (left right : Text) : before left right = true ↔ left.values < right.values := by
  induction left generalizing right with
  | nil => cases right <;> simp [before, values]
  | cons point rest ih =>
      cases right with
      | nil => simp [before, values]
      | cons other others =>
          have tail := ih others
          simp only [values] at tail
          simp only [before, values, List.map_cons, List.cons_lt_cons_iff, Bool.or_eq_true,
            Bool.and_eq_true, decide_eq_true_eq, tail]

theorem before_trans {left middle right : Text}
    (first : before left middle = true) (second : before middle right = true) :
    before left right = true := by
  rw [before_iff] at first second ⊢
  exact List.lt_trans first second

theorem before_trichotomy (left right : Text) :
    left = right ∨ before left right = true ∨ before right left = true := by
  simp only [before_iff]
  by_cases less : left.values < right.values
  · exact .inr (.inl less)
  · by_cases greater : right.values < left.values
    · exact .inr (.inr greater)
    · exact .inl (values_injective (List.le_antisymm greater less))

/-- The order with equality. -/
def AtMost (left right : Text) : Prop := left = right ∨ before left right = true

theorem AtMost.trans {left middle right : Text}
    (first : AtMost left middle) (second : AtMost middle right) : AtMost left right := by
  rcases first with rfl | first
  · exact second
  · rcases second with rfl | second
    · exact .inr first
    · exact .inr (before_trans first second)

theorem AtMost.antisymm {left right : Text}
    (first : AtMost left right) (second : AtMost right left) : left = right := by
  rcases first with same | first
  · exact same
  · rcases second with same | second
    · exact same.symm
    · rw [before_iff] at first second
      exact absurd second (List.lt_asymm first)

theorem lesser_atMost_left (left right : Text) : AtMost (lesser left right) left := by
  unfold lesser
  split
  · exact .inr ‹_›
  · exact .inl rfl

theorem lesser_atMost_right (left right : Text) : AtMost (lesser left right) right := by
  unfold lesser
  split
  · exact .inl rfl
  · rcases before_trichotomy left right with same | less | greater
    · exact .inl same
    · exact .inr less
    · contradiction

theorem lesser_eq_or (left right : Text) : lesser left right = left ∨ lesser left right = right := by
  unfold lesser
  split <;> simp

/-- The text that is kept on the way through a list is one of those seen, and
none of them comes before it. -/
theorem foldl_lesser (texts : List Text) (first : Text) :
    texts.foldl lesser first ∈ first :: texts ∧
      ∀ text ∈ first :: texts, AtMost (texts.foldl lesser first) text := by
  induction texts generalizing first with
  | nil => simp [AtMost]
  | cons next rest ih =>
      obtain ⟨member, minimal⟩ := ih (lesser first next)
      have atMost := minimal (lesser first next) (by simp)
      constructor
      · rw [List.foldl_cons]
        rcases List.mem_cons.mp member with kept | later
        · rw [kept]
          rcases lesser_eq_or first next with same | same <;> simp [same]
        · simp [later]
      · intro text inside
        simp only [List.mem_cons] at inside
        rcases inside with rfl | rfl | later
        · exact atMost.trans (lesser_atMost_left _ _)
        · exact atMost.trans (lesser_atMost_right _ _)
        · exact minimal text (by simp [later])

theorem least?_eq_none {texts : List Text} : least? texts = none ↔ texts = [] := by
  cases texts <;> simp [least?]

theorem least?_eq_some {texts : List Text} {least : Text} (found : least? texts = some least) :
    least ∈ texts ∧ ∀ text ∈ texts, AtMost least text := by
  cases texts with
  | nil => simp [least?] at found
  | cons first rest =>
      simp only [least?, Option.some.injEq] at found
      subst least
      exact foldl_lesser rest first

/-- The least of some texts does not depend on their order. -/
theorem least?_perm {texts others : List Text} (same : texts.Perm others) :
    least? texts = least? others := by
  cases found : least? texts with
  | none =>
      rw [least?_eq_none] at found
      subst found
      rw [← same.nil_eq]
      rfl
  | some least =>
      cases other : least? others with
      | none =>
          rw [least?_eq_none] at other
          subst other
          rw [same.eq_nil] at found
          cases found
      | some otherLeast =>
          obtain ⟨member, minimal⟩ := least?_eq_some found
          obtain ⟨otherMember, otherMinimal⟩ := least?_eq_some other
          exact congrArg some (AtMost.antisymm (minimal _ (same.mem_iff.mpr otherMember))
            (otherMinimal _ (same.mem_iff.mp member)))

end Text

end Formulary
