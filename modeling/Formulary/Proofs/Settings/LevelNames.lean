import Mathlib.Data.List.Forall2
import Mathlib.Data.List.Infix
import Formulary.LogLevel
import Formulary.Proofs.Text.CodePoint

namespace Formulary

/-! # Names of levels

A text names a level if its upper case does.  The letters that a name may be
written with are those of ASCII, large or small, and the dotless i: what a
ligature is spelt out as is in no name, and the capitals of all other letters
are no letters of ASCII.
-/

namespace CodePoint

theorem value_of_ofValue? {number : Nat} {point : CodePoint}
    (found : ofValue? number = some point) :
    point.value = number := by
  by_cases surrogates : 0xD800 ≤ number ∧ number < 0xE000
  · rw [ofValue?, dif_pos surrogates] at found
    obtain rfl := Option.some.inj found
    exact Nat.add_sub_cancel' surrogates.1
  · by_cases valid : number.isValidChar
    · rw [ofValue?, dif_neg surrogates, dif_pos valid] at found
      obtain rfl := Option.some.inj found
      rfl
    · rw [ofValue?, dif_neg surrogates, dif_neg valid] at found
      cases found

end CodePoint

namespace Text

theorem upper_cons (point : CodePoint) (rest : Text) :
    upper (point :: rest) = capitals point ++ upper rest := rfl

namespace CaseRun

variable {run : CaseRun} {point : CodePoint}

theorem offset_of_includes (included : run.includes point.value = true) :
    run.first + (point.value - run.first) = point.value ∧
      point.value - run.first ∈ List.range (run.last - run.first + 1) := by
  simp only [includes, Bool.and_eq_true, decide_eq_true_eq] at included
  rw [List.mem_range]
  omega

end CaseRun

end Text

namespace LogLevel

open Text (capitals smallRuns speltRuns CaseRun)

theorem mem_all (level : LogLevel) : level ∈ all := by
  cases level <;> decide

theorem ofText?_eq_some_iff {text : Text} {level : LogLevel} :
    ofText? text = some level ↔ Text.upper text = level.name := by
  constructor
  · intro found
    rw [ofText?] at found
    simpa using List.find?_some found
  · intro same
    rw [ofText?, same]
    cases level <;> rfl

/-- The letters whose capital is a given letter of ASCII. -/
def lettersOf (capital : CodePoint) : List CodePoint :=
  [capital, .ofUnit (capital.value + 32)] ++
    if capital = .scalar 'I' then [.scalar '\u0131']
    else if capital = .scalar 'S' then [.scalar '\u017f'] else []

/-- No name has the capitals of a ligature in it. -/
theorem spelt_outside :
    ∀ run ∈ speltRuns, ∀ offset ∈ List.range (run.letters.last - run.letters.first + 1),
      ∀ level ∈ all,
        ¬ (CodePoint.ofValue? (run.letters.other + offset)).toList ++
          run.rest.filterMap CodePoint.ofValue? <:+: level.name := by
  decide +kernel

/-- The capitals in names belong to the letters that the names may be written with. -/
theorem small_within :
    ∀ run ∈ smallRuns, run.other < 128 → ∀ offset ∈ List.range (run.last - run.first + 1),
      ∀ level ∈ all, ∀ capital ∈ level.name, capital.value = run.other + offset →
        run.first + offset ∈ (lettersOf capital).map CodePoint.value := by
  decide +kernel

theorem value_lt_of_mem_name : ∀ level ∈ all, ∀ capital ∈ level.name, capital.value < 128 := by
  decide

theorem capitals_of_mem_lettersOf :
    ∀ level ∈ all, ∀ capital ∈ level.name, ∀ letter ∈ lettersOf capital,
      capitals letter = [capital] := by
  decide +kernel

theorem mem_lettersOf_of_other? {level : LogLevel} {letter capital : CodePoint}
    (other : CaseRun.other? smallRuns letter = some capital) (named : capital ∈ level.name) :
    letter ∈ lettersOf capital := by
  obtain ⟨run, found, image⟩ := Option.bind_eq_some_iff.mp other
  obtain ⟨place, offset⟩ := CaseRun.offset_of_includes (by simpa using List.find?_some found)
  have number := CodePoint.value_of_ofValue? image
  have small : run.other < 128 := by
    have bound := value_lt_of_mem_name level (mem_all level) capital named
    omega
  have listed := small_within run (List.mem_of_find?_eq_some found) small _ offset level
    (mem_all level) capital named number
  rw [place] at listed
  exact (List.mem_map_of_injective CodePoint.value_injective).mp listed

/-- A code point whose capitals stand in a name has one capital there. -/
theorem capitals_infix {level : LogLevel} {letter : CodePoint}
    (inside : capitals letter <:+: level.name) :
    ∃ capital ∈ level.name, capitals letter = [capital] ∧ letter ∈ lettersOf capital := by
  cases spelt : speltRuns.find? fun run => run.letters.includes letter.value with
  | some run =>
      obtain ⟨_, offset⟩ := CaseRun.offset_of_includes (by simpa using List.find?_some spelt)
      have outside := spelt_outside run (List.mem_of_find?_eq_some spelt) _ offset level
        (mem_all level)
      rw [capitals, spelt] at inside
      exact absurd inside outside
  | none =>
      have single : capitals letter = [(CaseRun.other? smallRuns letter).getD letter] := by
        rw [capitals, spelt]
      rw [single] at inside ⊢
      have named := inside.subset (List.mem_singleton_self _)
      refine ⟨_, named, rfl, ?_⟩
      cases other : CaseRun.other? smallRuns letter with
      | none => exact List.mem_append_left _ (List.mem_cons_self ..)
      | some capital =>
          rw [other, Option.getD_some] at named
          exact mem_lettersOf_of_other? other named

theorem upper_eq_iff_of_suffix {level : LogLevel} {ending : Text} (text : Text)
    (within : ending <:+ level.name) :
    Text.upper text = ending ↔
      List.Forall₂ (fun letter capital => letter ∈ lettersOf capital) text ending := by
  induction text generalizing ending with
  | nil => rw [List.forall₂_nil_left_iff, eq_comm, Text.upper, List.flatMap_nil]
  | cons letter rest ih =>
      rw [Text.upper_cons]
      constructor
      · intro same
        have inside : capitals letter <:+: level.name :=
          (same ▸ List.prefix_append _ _).isInfix.trans within.isInfix
        obtain ⟨capital, _, single, listed⟩ := capitals_infix inside
        rw [single, List.singleton_append] at same
        subst same
        exact .cons listed ((ih ((List.suffix_cons _ _).trans within)).mp rfl)
      · intro spelt
        obtain ⟨capital, behind, listed, following, rfl⟩ := List.forall₂_cons_left_iff.mp spelt
        have named := within.subset (List.mem_cons_self ..)
        rw [capitals_of_mem_lettersOf level (mem_all level) capital named letter listed,
          (ih ((List.suffix_cons _ _).trans within)).mpr following, List.singleton_append]

/-- The texts that name a level have its letters, each in one of its forms. -/
theorem ofText?_eq_some_iff_letters {text : Text} {level : LogLevel} :
    ofText? text = some level ↔
      List.Forall₂ (fun letter capital => letter ∈ lettersOf capital) text level.name := by
  rw [ofText?_eq_some_iff, upper_eq_iff_of_suffix text (List.suffix_refl _)]

example : ofText? "Warn\u0131ng" = some .warning := by decide +kernel

end LogLevel

end Formulary
