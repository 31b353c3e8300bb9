import Formulary.Json.Reader
import Formulary.Proofs.Outcome

namespace Formulary

/-! # Bare constants in a text

Not a number and the infinities are no JSON, but lenient reading takes them.
A text holds such a constant where one begins outside of string literals, and
that is told from the letters alone, without reading values.  What a reader
takes off a text holds no constant.
-/

namespace Text

inductive Region where
  | outside
  | inString
  /-- Inside of a string literal and right behind a backslash. -/
  | escaped
deriving DecidableEq, Repr

def Region.after (region : Region) (point : CodePoint) : Region :=
  match region with
  | outside => if point = .scalar '"' then inString else outside
  | inString =>
    if point = .scalar '"' then outside
    else if point = .scalar '\\' then escaped
    else inString
  | escaped => inString

def constants : List Text := ["NaN", "Infinity", "-Infinity"]

def holdsConstantFrom (region : Region) : Text → Bool
  | [] => false
  | point :: rest =>
    (region = .outside && constants.any (·.startsWith (point :: rest))) ||
      holdsConstantFrom (region.after point) rest

def holdsConstant (text : Text) : Bool :=
  holdsConstantFrom .outside text

example : holdsConstant "[1, -Infinity]" = true := by decide
example : holdsConstant "[\"NaN \\\" NaN\"]" = false := by decide

/-- From one place of a text to a later one, with no letter outside of strings
that a constant is told by. -/
inductive Passes : Region → Text → Region → Text → Prop where
  | done {region : Region} {text : Text} : Passes region text region text
  | step {region finish : Region} {point : CodePoint} {text rest : Text}
      (harmless : region = .outside → point ≠ .scalar 'N' ∧ point ≠ .scalar 'I')
      (further : Passes (region.after point) text finish rest) :
      Passes region (point :: text) finish rest

variable {start middle finish : Region} {text between rest : Text}

theorem Passes.trans (first : Passes start text middle between)
    (second : Passes middle between finish rest) : Passes start text finish rest := by
  induction first with
  | done => exact second
  | step harmless _ ih => exact .step harmless (ih second)

theorem Passes.holdsConstantFrom (passes : Passes start text finish rest)
    (holds : holdsConstantFrom finish rest = true) : holdsConstantFrom start text = true := by
  induction passes with
  | done => exact holds
  | step _ _ ih => rw [Text.holdsConstantFrom, ih holds, Bool.or_true]

/-- The first letter that tells a constant is the first or the second of its letters. -/
theorem not_startsWith_constant {point : CodePoint}
    (harmless : point ≠ .scalar 'N' ∧ point ≠ .scalar 'I')
    (behindMinus : point = .scalar '-' → ∀ rest, text ≠ .scalar 'I' :: rest) :
    constants.any (·.startsWith (point :: text)) = false := by
  have nan : startsWith "NaN" (point :: text) = false := by
    simp [startsWith, ofString, dropStart?, harmless.1.symm]
  have infinity : startsWith "Infinity" (point :: text) = false := by
    simp [startsWith, ofString, dropStart?, harmless.2.symm]
  have negative : startsWith "-Infinity" (point :: text) = false := by
    by_cases minus : point = .scalar '-'
    · have second := behindMinus minus
      cases text with
      | nil => simp [startsWith, ofString, dropStart?, minus]
      | cons next rest =>
          have different : .scalar 'I' ≠ next := by
            rintro rfl
            exact second rest rfl
          simp [startsWith, ofString, dropStart?, minus, different]
    · simp [startsWith, ofString, dropStart?, Ne.symm minus]
  simp [constants, nan, infinity, negative]

theorem Passes.not_holdsConstantFrom (passes : Passes start text finish []) :
    Text.holdsConstantFrom start text = false := by
  generalize none : ([] : Text) = rest at passes
  induction passes with
  | done => rw [← none, Text.holdsConstantFrom]
  | @step region finish point text rest harmless further ih =>
      rw [Text.holdsConstantFrom, ih none, Bool.or_false, Bool.and_eq_false_imp]
      intro outside
      obtain rfl := of_decide_eq_true outside
      refine not_startsWith_constant (harmless rfl) ?_
      rintro rfl others rfl
      cases further with
      | done => cases none
      | step harmless _ => exact (harmless rfl).2 rfl

theorem Passes.quote (passes : Passes .inString text .outside rest) :
    Passes .outside (.scalar '"' :: text) .outside rest :=
  .step (fun _ => by decide) passes

theorem Passes.inString {point : CodePoint} (noQuote : point ≠ .scalar '"')
    (noBackslash : point ≠ .scalar '\\') (further : Passes .inString text finish rest) :
    Passes .inString (point :: text) finish rest := by
  refine .step nofun ?_
  rwa [Region.after, if_neg noQuote, if_neg noBackslash]

theorem Passes.hexDigit {point : CodePoint} (digit : point.hexDigit? ≠ none)
    (further : Passes .inString text finish rest) :
    Passes .inString (point :: text) finish rest := by
  refine .inString ?_ ?_ further
  all_goals
    rintro rfl
    exact digit rfl

theorem Passes.escape {letter : CodePoint}
    (further : Passes .inString text finish rest) :
    Passes .inString (.scalar '\\' :: letter :: text) finish rest :=
  .step nofun (.step nofun further)

structure Harmless (point : CodePoint) : Prop where
  noQuote : point ≠ .scalar '"'
  noN : point ≠ .scalar 'N'
  noI : point ≠ .scalar 'I'

theorem Passes.outside {point : CodePoint} (harmless : Harmless point)
    (further : Passes .outside text finish rest) : Passes .outside (point :: text) finish rest := by
  refine .step (fun _ => ⟨harmless.noN, harmless.noI⟩) ?_
  rwa [Region.after, if_neg harmless.noQuote]

theorem Passes.word (word : Text) (harmless : ∀ point ∈ word,
      point ≠ .scalar '"' ∧ point ≠ .scalar 'N' ∧ point ≠ .scalar 'I') :
    Passes .outside (word ++ rest) .outside rest := by
  induction word with
  | nil => exact .done
  | cons point word ih =>
      simp only [List.forall_mem_cons] at harmless
      exact .outside ⟨harmless.1.1, harmless.1.2.1, harmless.1.2.2⟩ (ih harmless.2)

theorem harmless_of_digit {point : CodePoint} (digit : point.digit? ≠ none) : Harmless point := by
  refine ⟨?_, ?_, ?_⟩ <;>
    · rintro rfl
      exact digit rfl

end Text

namespace Json

open Text

variable {text following remaining : Text}

/-! ## What readers take off a text -/

theorem skipBlank_passes (text : Text) : Passes .outside text .outside (skipBlank text) := by
  induction text with
  | nil => exact .done
  | cons point rest ih =>
      cases blank : isBlank point with
      | false =>
          rw [skipBlank, List.dropWhile_cons_of_neg (by simp [blank])]
          exact .done
      | true =>
          rw [skipBlank, List.dropWhile_cons_of_pos blank]
          simp only [isBlank, Bool.or_eq_true, decide_eq_true_eq] at blank
          refine .outside ?_ ih
          rcases blank with ((rfl | rfl) | rfl) | rfl <;> exact ⟨by decide, by decide, by decide⟩

theorem unit?_digits {first second third fourth : CodePoint} {value : Nat}
    (known : unit? first second third fourth = some value) :
    ∀ point ∈ [first, second, third, fourth], point.hexDigit? ≠ none := by
  simp only [unit?, Option.bind_eq_bind, Option.bind_eq_some_iff] at known
  obtain ⟨_, onFirst, _, onSecond, _, onThird, _, onFourth, _⟩ := known
  simp [onFirst, onSecond, onThird, onFourth]

theorem readPieces_passes {opening : Nat} {pieces : List Piece}
    (read : readPieces opening text = .ok (pieces, remaining)) :
    Passes .inString text .outside remaining := by
  induction text using readPieces.induct generalizing pieces remaining with
  | case2 rest =>
      cases read
      exact .step nofun .done
  | case5 first second third fourth next following value known ih =>
      simp only [readPieces, known, Except.bind_eq_ok_iff] at read
      obtain ⟨_, inner, same⟩ := read
      cases same
      have digits := unit?_digits known
      simp only [List.forall_mem_cons] at digits
      exact .escape (.hexDigit digits.1 (.hexDigit digits.2.1 (.hexDigit digits.2.2.1
        (.hexDigit digits.2.2.2.1 (ih inner)))))
  | case8 letter following noUnicode point known ih =>
      simp only [readPieces, known, Except.bind_eq_ok_iff] at read
      obtain ⟨_, inner, same⟩ := read
      cases same
      exact .escape (ih inner)
  | case10 point rest noQuote noBackslash visible ih =>
      simp only [readPieces, if_neg visible, Except.bind_eq_ok_iff] at read
      obtain ⟨_, inner, same⟩ := read
      cases same
      exact .inString noQuote noBackslash (ih inner)
  | case1 => cases read
  | case3 => cases read
  | case4 _ _ _ _ _ _ known => simp [readPieces, known] at read
  | case6 digits short => simp [readPieces] at read
  | case7 letter following noUnicode unknown => simp [readPieces, unknown] at read
  | case9 point rest noQuote noBackslash control => simp [readPieces, control] at read

theorem readString_passes {value : Text} (read : readString text = .ok (value, remaining)) :
    Passes .outside (.scalar '"' :: text) .outside remaining := by
  obtain ⟨_, inner, same⟩ := Except.bind_eq_ok_iff.mp read
  cases same
  exact (readPieces_passes inner).quote

theorem takeDigits_passes (text : Text) :
    Passes .outside text .outside (Numeral.takeDigits text).2 := by
  induction text with
  | nil => exact .done
  | cons point rest ih =>
      cases known : point.digit? with
      | none =>
          simp only [Numeral.takeDigits, known]
          exact .done
      | some digit =>
          simp only [Numeral.takeDigits, known]
          exact .outside (harmless_of_digit (by simp [known])) ih

theorem takeSign_passes (text : Text) : Passes .outside text .outside (takeSign text).2 := by
  unfold takeSign
  split
  · exact .outside ⟨by decide, by decide, by decide⟩ .done
  · exact .done

theorem takeWhole_passes (text : Text) : Passes .outside text .outside (takeWhole text).2 := by
  unfold takeWhole
  split
  · exact .outside ⟨by decide, by decide, by decide⟩ .done
  · exact takeDigits_passes text

theorem takeFraction_passes (text : Text) :
    Passes .outside text .outside ((takeFraction text).getD ([], text)).2 := by
  unfold takeFraction
  split
  · rename_i rest
    have digits := takeDigits_passes rest
    split
    · exact .done
    · exact .outside ⟨by decide, by decide, by decide⟩ digits
  · exact .done

theorem takeExponent_passes (text : Text) :
    Passes .outside text .outside ((takeExponent text).getD (0, text)).2 := by
  unfold takeExponent
  split
  case h_3 => exact .done
  all_goals
    rename_i rest
    split
    rename_i negative unsigned signed
    have sign : Passes .outside rest .outside unsigned := by
      split at signed <;> cases signed
      · exact .outside ⟨by decide, by decide, by decide⟩ .done
      · exact .outside ⟨by decide, by decide, by decide⟩ .done
      · exact .done
    have digits := sign.trans (takeDigits_passes unsigned)
    split
    · exact .done
    · rename_i found
      rw [found] at digits
      exact .outside ⟨by decide, by decide, by decide⟩ digits

theorem ofUnits_ne_nan (negative : Bool) (numerator denominator : Nat) :
    Binary64.ofUnits negative numerator denominator ≠ .nan := by
  simp only [Binary64.ofUnits]
  split <;> simp

theorem ofDecimal_ne_nan (negative : Bool) (coefficient : Nat) (exponent : Int) :
    Binary64.ofDecimal negative coefficient exponent ≠ .nan := by
  have zero : Binary64.zero negative ≠ .nan := by rintro ⟨⟩
  have infinity : Binary64.infinity negative ≠ .nan := by rintro ⟨⟩
  unfold Binary64.ofDecimal
  split
  · exact zero
  · split
    · exact infinity
    · split
      · exact zero
      · split
        · exact ofUnits_ne_nan negative _ _
        · exact ofUnits_ne_nan negative _ _

theorem readNumber_passes {value : Number} (read : readNumber text = .ok (value, remaining)) :
    Passes .outside text .outside remaining ∧ value ≠ .float .nan := by
  have sign := takeSign_passes text
  have whole := takeWhole_passes (takeSign text).2
  have fraction := takeFraction_passes (takeWhole (takeSign text).2).2
  simp only [readNumber] at read
  split at read
  · cases read
  · rename_i digits afterWhole _ found
    rw [found] at whole fraction
    have exponent := takeExponent_passes ((takeFraction afterWhole).getD ([], afterWhole)).2
    have passes := sign.trans (whole.trans (fraction.trans exponent))
    split at read
    · split at read
      · cases read
      · cases read
        exact ⟨passes, nofun⟩
    · cases read
      refine ⟨passes, ?_⟩
      simp [ofDecimal_ne_nan]

end Json

end Formulary
