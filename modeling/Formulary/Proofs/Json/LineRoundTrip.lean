import Formulary.Proofs.Json.FloatLiteral
import Formulary.Proofs.Json.RoundTrip

namespace Formulary

/-! # Lines are read back

The line of a value without infinities and without halves of surrogate pairs is
a text that writes that value, floats to the last bit.
-/

/-! ## Strings -/

namespace Json

theorem Piece.text_pair {high low : Nat} {pieces : List Piece}
    (isHigh : CodePoint.isHighUnit high = true) (isLow : CodePoint.isLowUnit low = true)
    (noHigh : CodePoint.isHighUnit low = false) :
    Piece.text (.unit high :: .unit low :: pieces) = .ofPair high low :: Piece.text pieces := by
  have kept : prepend (.unit low) (pieces.foldr prepend []) =
      .unit low :: pieces.foldr prepend [] := by
    refine prepend_of_alone _ ?_
    rintro value ⟨⟩
    exact noHigh
  have paired : prepend (.unit high) (.unit low :: pieces.foldr prepend []) =
      .plain (.ofPair high low) :: pieces.foldr prepend [] := by
    simp [prepend, isHigh, isLow]
  rw [Piece.text, List.foldr_cons, List.foldr_cons, kept, paired, List.map_cons, ← Piece.text]
  rfl

theorem PiecesWritten.append {pieces others : List Piece} {text following : Text}
    (first : PiecesWritten pieces text) (rest : PiecesWritten others following) :
    PiecesWritten (pieces ++ others) (text ++ following) := by
  induction first with
  | nil => exact rest
  | cons first _ ih =>
      rw [List.append_assoc]
      exact .cons first ih

theorem PiecesWritten.single {piece : Piece} {text : Text} (written : piece.Written text) :
    PiecesWritten [piece] text := by
  have one := PiecesWritten.cons written .nil
  rwa [List.append_nil] at one

/-- What stands on a line for a code point is read back as the code point, whatever follows. -/
theorem escapeToAscii_written {point : CodePoint} (scalar : point.isSurrogate = false) :
    ∃ pieces, PiecesWritten pieces (escapeToAscii point) ∧
      ∀ others, Piece.text (pieces ++ others) = point :: Piece.text others := by
  have plain (others : List Piece) :
      Piece.text ([.plain point] ++ others) = point :: Piece.text others :=
    Piece.text_cons fun _ same => nomatch same
  unfold escapeToAscii
  cases short : shortEscape? point with
  | some escaped =>
      refine ⟨[.plain point], .single ?_, plain⟩
      unfold shortEscape? at short
      split at short <;> cases short <;> exact .escaped rfl
  | none =>
      dsimp only
      split
      · rename_i visible
        refine ⟨[.plain point], .single (.plain visible.1 ?_ ?_), plain⟩ <;>
          · rintro rfl
            cases short
      · by_cases beyond : point.value < 0x10000
        · refine ⟨[.unit point.value], ?_, fun others => ?_⟩
          · have one : point.units = [point.value] := if_pos beyond
            simpa [one] using PiecesWritten.single (unicodeEscape_written beyond)
          · rw [List.singleton_append, Piece.text_cons, Piece.point, CodePoint.ofUnit_value]
            rintro value ⟨⟩
            exact CodePoint.isHighUnit_of_scalar scalar
        · obtain ⟨high, low, units, highFits, lowFits, isHigh, isLow, noHigh, pair⟩ :=
            CodePoint.units_of_supplementary beyond
          refine ⟨[.unit high, .unit low], ?_, fun others => ?_⟩
          · have both := PiecesWritten.cons (unicodeEscape_written highFits)
              (.single (unicodeEscape_written lowFits))
            simpa [units] using both
          · rw [List.cons_append, List.singleton_append, Piece.text_pair isHigh isLow noHigh, pair]

theorem escapesToAscii_written {text : Text} (scalar : text.Scalar) :
    ∃ pieces, PiecesWritten pieces (text.flatMap escapeToAscii) ∧ Piece.text pieces = text := by
  induction text with
  | nil => exact ⟨[], .nil, rfl⟩
  | cons point text ih =>
      obtain ⟨here, later⟩ := List.forall_mem_cons.mp scalar
      obtain ⟨pieces, first, same⟩ := escapeToAscii_written here
      obtain ⟨others, rest, remaining⟩ := ih later
      exact ⟨pieces ++ others, .append first rest, by rw [same, remaining]⟩

theorem quotedAscii_written {text : Text} (scalar : text.Scalar) :
    Written (.string text) (quotedAscii text) := by
  obtain ⟨pieces, body, same⟩ := escapesToAscii_written scalar
  have written := Written.string body
  rwa [same] at written

/-! ## Values -/

/-- The values that a line shows all of. -/
inductive IsLegible : Json → Prop where
  | null : IsLegible .null
  | bool (value : Bool) : IsLegible (.bool value)
  | number {value : Number} (finite : value.isFinite = true)
      (printable : value.isPrintable = true) :
      IsLegible (.number value)
  | string {text : Text} (scalar : text.Scalar) : IsLegible (.string text)
  | array {items : List Json} (inside : ∀ item ∈ items, IsLegible item) : IsLegible (.array items)
  | object {fields : Fields} (distinct : fields.names.Nodup)
      (named : ∀ member ∈ fields, member.1.Scalar)
      (inside : ∀ member ∈ fields, IsLegible member.2) :
      IsLegible (.object fields)

theorem literal_written {value : Number} (finite : value.isFinite = true)
    (printable : value.isPrintable = true) : NumberWritten value value.literal := by
  cases value with
  | int whole =>
      refine .integer (Numeral.length_digits_le (by decide) ?_)
      simpa [Number.isPrintable] using printable
  | float value =>
      cases value with
      | finite negative rank => exact Number.floatLiteral_written negative rank
      | _ => cases finite

theorem lineItems_separated {gap : Text} {item : Json} {rest : List Json}
    (written : ∀ value ∈ item :: rest, Written value value.line) (blank : IsGap gap) :
    Separated Written (item :: rest) (gap ++ (line item ++ lineItems rest)) := by
  have comma : Text.ofString ", " = [.scalar ',', .scalar ' '] := rfl
  induction rest generalizing item gap with
  | nil =>
      have final := written item (List.mem_cons_self ..)
      simpa [lineItems] using Separated.last blank final isGap_nil
  | cons next rest ih =>
      have first := written item (List.mem_cons_self ..)
      have others := ih (fun value inside => written value (List.mem_cons_of_mem item inside))
        isGap_space
      simpa [lineItems, comma] using Separated.more blank first isGap_nil others

theorem lineMember_written {name : Text} {value : Json} (scalar : name.Scalar)
    (written : Written value value.line) :
    MemberWritten Written (name, value) (quotedAscii name ++ ": " ++ line value) := by
  obtain ⟨pieces, body, same⟩ := escapesToAscii_written scalar
  have member := MemberWritten.intro body isGap_nil isGap_space written
  have colon : Text.ofString ": " = [.scalar ':', .scalar ' '] := rfl
  rw [same] at member
  simpa [quotedAscii, colon] using member

theorem lineMembers_separated {gap name : Text} {value : Json} {rest : Fields}
    (written : ∀ member ∈ (name, value) :: rest,
      MemberWritten Written member (quotedAscii member.1 ++ ": " ++ line member.2))
    (blank : IsGap gap) :
    Separated (MemberWritten Written) ((name, value) :: rest)
      (gap ++ (quotedAscii name ++ ": " ++ line value ++ lineMembers rest)) := by
  have comma : Text.ofString ", " = [.scalar ',', .scalar ' '] := rfl
  induction rest generalizing gap name value with
  | nil =>
      have final := written (name, value) (List.mem_cons_self ..)
      simpa [lineMembers] using Separated.last blank final isGap_nil
  | cons next rest ih =>
      obtain ⟨nextName, nextValue⟩ := next
      have first := written (name, value) (List.mem_cons_self ..)
      have others := ih (fun member inside => written member (List.mem_cons_of_mem _ inside))
        isGap_space
      simpa [lineMembers, comma] using Separated.more blank first isGap_nil others

theorem IsLegible.line_written {value : Json} (legible : value.IsLegible) :
    Written value value.line := by
  induction legible with
  | null => exact .null
  | bool value => cases value with
    | false => exact .false
    | true => exact .true
  | number finite printable => exact .number (literal_written finite printable)
  | string scalar => exact quotedAscii_written scalar
  | @array items inside ih =>
      cases items with
      | nil => exact .emptyArray isGap_nil
      | cons item rest =>
          have bracket : Text.ofString "]" = [.scalar ']'] := rfl
          simpa [line, bracket] using Written.array (lineItems_separated ih isGap_nil)
  | @object fields distinct named inside ih =>
      cases fields with
      | nil => exact .emptyObject isGap_nil
      | cons member rest =>
          obtain ⟨name, value⟩ := member
          have brace : Text.ofString "\x7d" = [.scalar '}'] := rfl
          have members := lineMembers_separated
            (fun member listed => lineMember_written (named member listed) (ih member listed))
            isGap_nil
          simpa [line, brace] using Written.object distinct members

theorem read_line {constants : Constants} {value : Json} (legible : value.IsLegible)
    (shallow : value.nesting ≤ nestingLimit) : read constants value.line = .ok value :=
  read_written legible.line_written shallow

end Json

end Formulary
