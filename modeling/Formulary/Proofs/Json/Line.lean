import Formulary.Json.Printer
import Formulary.Proofs.Number.Digits

namespace Formulary

/-! # One line of printable ASCII

Whatever a value holds, the line that shows it has no line break in it, no other
control character and nothing beyond ASCII.  The same is true of the number on
a result line.
-/

namespace Text

/-- Only blanks and the visible characters of ASCII. -/
def PrintableAscii (text : Text) : Prop :=
  ∀ point ∈ text, 0x20 ≤ point.value ∧ point.value < 0x7F

instance (text : Text) : Decidable text.PrintableAscii :=
  inferInstanceAs (Decidable (∀ point ∈ text, 0x20 ≤ point.value ∧ point.value < 0x7F))

variable {text : Text}

@[simp] theorem printableAscii_nil : PrintableAscii [] :=
  fun _ member => absurd member List.not_mem_nil

@[simp] theorem printableAscii_cons {point : CodePoint} :
    PrintableAscii (point :: text) ↔
      (0x20 ≤ point.value ∧ point.value < 0x7F) ∧ text.PrintableAscii :=
  List.forall_mem_cons

@[simp] theorem printableAscii_append {other : Text} :
    PrintableAscii (text ++ other) ↔ text.PrintableAscii ∧ other.PrintableAscii :=
  List.forall_mem_append

theorem printableAscii_flatMap {α : Type} {pieces : List α} {shown : α → Text}
    (each : ∀ piece, (shown piece).PrintableAscii) : PrintableAscii (pieces.flatMap shown) := by
  intro point member
  obtain ⟨piece, _, inside⟩ := List.mem_flatMap.mp member
  exact each piece point inside

end Text

theorem CodePoint.ofDigit_printable (digit : Fin 16) :
    0x20 ≤ (ofDigit digit).value ∧ (ofDigit digit).value < 0x7F := by
  revert digit
  decide

namespace Numeral

theorem write_printable (digits : List Digit) : (write digits).PrintableAscii := by
  intro point member
  obtain ⟨digit, _, rfl⟩ := List.mem_map.mp member
  exact CodePoint.ofDigit_printable _

theorem ofInt_printable (number : Int) : (ofInt number).PrintableAscii := by
  unfold ofInt
  split
  · exact Text.printableAscii_cons.mpr ⟨by decide, write_printable _⟩
  · exact write_printable _

theorem ofInt_ne_nil (number : Int) : ofInt number ≠ [] := by
  unfold ofInt
  split
  · exact List.cons_ne_nil _ _
  · simp [ofNat, write, digits_ne_nil]

theorem zeros_printable (count : Nat) : (Layout.zeros count).PrintableAscii := by
  intro point member
  rw [List.eq_of_mem_replicate member]
  decide

theorem padded_printable (width number : Nat) : (padded width number).PrintableAscii :=
  Text.printableAscii_append.mpr ⟨zeros_printable _, write_printable _⟩

theorem hexOnto_printable {number : Nat} {following : Text} (printable : following.PrintableAscii) :
    (hexOnto number following).PrintableAscii := by
  induction number, following using hexOnto.induct with
  | case1 number following small =>
      rw [hexOnto, if_pos small]
      exact Text.printableAscii_cons.mpr ⟨CodePoint.ofDigit_printable _, printable⟩
  | case2 number following large ih =>
      rw [hexOnto, if_neg large]
      exact ih (Text.printableAscii_cons.mpr ⟨CodePoint.ofDigit_printable _, printable⟩)

theorem hex_printable (width number : Nat) : (hex width number).PrintableAscii :=
  Text.printableAscii_append.mpr
    ⟨zeros_printable _, hexOnto_printable Text.printableAscii_nil⟩

end Numeral

namespace Layout

variable {layout : Layout}

theorem positional_printable (mark : layout.wholeMark.PrintableAscii) (digits : List Digit)
    (exponent : Int) : (layout.positional digits exponent).PrintableAscii := by
  have point : Text.PrintableAscii "." := by decide
  have front : Text.PrintableAscii "0." := by decide
  simp only [positional]
  split
  · simp [Numeral.write_printable, Numeral.zeros_printable, mark]
  · split
    · simp [Numeral.write_printable, point]
    · simp [Numeral.write_printable, Numeral.zeros_printable, front]

theorem scientific_printable (digits : List Digit) (exponent : Int) :
    (layout.scientific digits exponent).PrintableAscii := by
  have point : Text.PrintableAscii "." := by decide
  have sign (negative : Prop) [Decidable negative] :
      Text.PrintableAscii (if negative then "e-" else "e+" : Text) := by
    split <;> decide
  rcases digits with _ | ⟨digit, _ | ⟨next, rest⟩⟩ <;>
    simp [scientific, Numeral.write_printable, Numeral.padded_printable, point, sign]

theorem write_printable (mark : layout.wholeMark.PrintableAscii) (decimal : Decimal) :
    (layout.write decimal).PrintableAscii := by
  have positional := positional_printable mark decimal.digits decimal.exponent
  have scientific : (layout.scientific decimal.digits decimal.exponent).PrintableAscii :=
    scientific_printable _ _
  have minus : 0x20 ≤ (CodePoint.scalar '-').value ∧ (CodePoint.scalar '-').value < 0x7F := by
    decide
  simp only [write]
  split <;> split <;> simp [minus, positional, scientific]

theorem positional_ne_nil (mark : layout.wholeMark ≠ []) (digits : List Digit) (exponent : Int) :
    layout.positional digits exponent ≠ [] := by
  have point : Text.ofString "." ≠ [] := by decide
  have front : Text.ofString "0." ≠ [] := by decide
  simp only [positional]
  split
  · simp [mark]
  · split
    · simp [point]
    · simp [front]

theorem scientific_ne_nil (digits : List Digit) (exponent : Int) :
    layout.scientific digits exponent ≠ [] := by
  have sign (negative : Prop) [Decidable negative] :
      (if negative then "e-" else "e+" : Text) ≠ [] := by
    split <;> decide
  simp [scientific, sign]

theorem write_ne_nil (mark : layout.wholeMark ≠ []) (decimal : Decimal) :
    layout.write decimal ≠ [] := by
  simp only [write]
  split
  · exact List.cons_ne_nil _ _
  · split
    · exact positional_ne_nil mark _ _
    · exact scientific_ne_nil _ _

end Layout

namespace Number

theorem floatLiteral_printable (value : Binary64) : (floatLiteral value).PrintableAscii := by
  cases value with
  | nan => decide
  | infinity negative => cases negative <;> decide
  | finite negative rank =>
      have mark : Layout.literal.wholeMark.PrintableAscii := by decide
      rw [floatLiteral]
      split
      · cases negative <;> decide
      · exact Layout.write_printable mark _

theorem literal_printable (value : Number) : value.literal.PrintableAscii := by
  cases value with
  | int value => exact Numeral.ofInt_printable value
  | float value => exact floatLiteral_printable value

theorem resultText_printable (value : Number) : value.resultText.PrintableAscii := by
  unfold resultText
  split
  · exact Numeral.ofInt_printable _
  · decide
  · split <;> decide
  · split
    · exact Numeral.ofInt_printable _
    · exact floatLiteral_printable _

theorem floatLiteral_ne_nil (value : Binary64) : floatLiteral value ≠ [] := by
  cases value with
  | nan => decide
  | infinity negative => cases negative <;> decide
  | finite negative rank =>
      have mark : Layout.literal.wholeMark ≠ [] := by decide
      rw [floatLiteral]
      split
      · cases negative <;> decide
      · exact Layout.write_ne_nil mark _

theorem resultText_ne_nil (value : Number) : value.resultText ≠ [] := by
  unfold resultText
  split
  · exact Numeral.ofInt_ne_nil _
  · decide
  · split <;> decide
  · split
    · exact Numeral.ofInt_ne_nil _
    · exact floatLiteral_ne_nil _

end Number

namespace Json

theorem unicodeEscape_printable (unit : Nat) : (unicodeEscape unit).PrintableAscii :=
  Text.printableAscii_append.mpr ⟨by decide, Numeral.hex_printable 4 unit⟩

theorem escapeToAscii_printable (point : CodePoint) : (escapeToAscii point).PrintableAscii := by
  unfold escapeToAscii
  cases short : shortEscape? point with
  | some escaped =>
      unfold shortEscape? at short
      split at short <;> cases short <;> decide
  | none =>
      dsimp only
      split
      · rename_i visible
        exact Text.printableAscii_cons.mpr ⟨visible, Text.printableAscii_nil⟩
      · exact Text.printableAscii_flatMap unicodeEscape_printable

theorem quotedAscii_printable (text : Text) : (quotedAscii text).PrintableAscii := by
  have inside : Text.PrintableAscii (text.flatMap escapeToAscii) :=
    Text.printableAscii_flatMap escapeToAscii_printable
  simp [quotedAscii, CodePoint.value, inside]

/-- What stands between the values of a line. -/
theorem marks_printable :
    Text.PrintableAscii ", " ∧ Text.PrintableAscii ": " ∧ Text.PrintableAscii "]" ∧
      Text.PrintableAscii "\x7d" := by
  decide

mutual

theorem line_printable (value : Json) : value.line.PrintableAscii :=
  match value with
  | null | bool true | bool false | array [] | object [] => by decide
  | number value => value.literal_printable
  | string text => quotedAscii_printable text
  | array (item :: rest) => by
      simp [line, CodePoint.value, marks_printable, line_printable item, lineItems_printable rest]
  | object ((name, value) :: rest) => by
      simp [line, CodePoint.value, marks_printable, quotedAscii_printable name,
        line_printable value, lineMembers_printable rest]

theorem lineItems_printable (items : List Json) : (lineItems items).PrintableAscii :=
  match items with
  | [] => Text.printableAscii_nil
  | item :: rest => by
      simp [lineItems, marks_printable, line_printable item, lineItems_printable rest]

theorem lineMembers_printable (members : List (Text × Json)) :
    (lineMembers members).PrintableAscii :=
  match members with
  | [] => Text.printableAscii_nil
  | (name, value) :: rest => by
      simp [lineMembers, marks_printable, quotedAscii_printable name, line_printable value,
        lineMembers_printable rest]

end

end Json

end Formulary
