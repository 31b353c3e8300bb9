import Formulary.Document.Diagnosis
import Formulary.Proofs.Json.Written
import Formulary.Proofs.Number.Comparison
import Formulary.Proofs.Text.CodePoint

namespace Formulary

/-! # Dumps are read back

The dump of a value whose integers a browser shows digit by digit is a text
that writes that value.  Reading the dump gives the value back, so different
values have different dumps, and a message that ends with the dump of a node
tells the node.
-/

/-! ## Strings -/

namespace Json

theorem Piece.prepend_of_alone {piece : Piece} (pieces : List Piece)
    (alone : ∀ value, piece = .unit value → CodePoint.isHighUnit value = false) :
    prepend piece pieces = piece :: pieces := by
  unfold prepend
  split
  · rename_i high low rest
    rw [alone high rfl, Bool.false_and, if_neg Bool.false_ne_true]
  · rfl

/-- A piece that starts no surrogate pair is read on its own. -/
theorem Piece.text_cons {piece : Piece} {pieces : List Piece}
    (alone : ∀ value, piece = .unit value → CodePoint.isHighUnit value = false) :
    Piece.text (piece :: pieces) = piece.point :: Piece.text pieces := by
  rw [Piece.text, List.foldr_cons, prepend_of_alone _ alone, List.map_cons, ← Piece.text]

theorem unit?_ofDigit (first second third fourth : Fin 16) :
    unit? (.ofDigit first) (.ofDigit second) (.ofDigit third) (.ofDigit fourth) =
      some (((first.val * 16 + second.val) * 16 + third.val) * 16 + fourth.val) := by
  simp [unit?]

theorem unicodeEscape_written {unit : Nat} (fits : unit < 0x10000) :
    Piece.Written (.unit unit) (unicodeEscape unit) := by
  have places : Numeral.hex 4 unit = Numeral.hexPlaces 4 unit :=
    Numeral.hex_eq_hexPlaces (by decide) fits
  have known := unit?_ofDigit (Fin.ofNat 16 (unit / 16 / 16 / 16)) (Fin.ofNat 16 (unit / 16 / 16))
    (Fin.ofNat 16 (unit / 16)) (Fin.ofNat 16 unit)
  have total : ((unit / 16 / 16 / 16 % 16 * 16 + unit / 16 / 16 % 16) * 16 + unit / 16 % 16) * 16 +
      unit % 16 = unit := by omega
  simp only [Fin.val_ofNat, total] at known
  rw [unicodeEscape, places]
  exact .unit known

theorem escape_written (point : CodePoint) :
    ∃ piece, Piece.Written piece (escape point) ∧ piece.point = point ∧
      ∀ value, piece = .unit value → CodePoint.isHighUnit value = false := by
  unfold escape
  cases short : shortEscape? point with
  | some escaped =>
      refine ⟨.plain point, ?_, rfl, fun _ same => nomatch same⟩
      unfold shortEscape? at short
      split at short <;> cases short <;> exact .escaped rfl
  | none =>
      by_cases control : point.value < 0x20
      · -- Control characters lie far below the surrogates, so the code unit is
        -- joined with no other one.
        rw [if_pos control]
        refine ⟨.unit point.value, unicodeEscape_written (by omega),
          CodePoint.ofUnit_value point, ?_⟩
        rintro value ⟨⟩
        simp [CodePoint.isHighUnit]
        omega
      · rw [if_neg control]
        refine ⟨.plain point, .plain (Nat.not_lt.mp control) ?_ ?_, rfl, fun _ same => nomatch same⟩
        · rintro rfl
          cases short
        · rintro rfl
          cases short

theorem escapes_written (text : Text) :
    ∃ pieces, PiecesWritten pieces (text.flatMap escape) ∧ Piece.text pieces = text := by
  induction text with
  | nil => exact ⟨[], .nil, rfl⟩
  | cons point text ih =>
      obtain ⟨piece, first, same, alone⟩ := escape_written point
      obtain ⟨pieces, rest, others⟩ := ih
      exact ⟨piece :: pieces, .cons first rest, by rw [Piece.text_cons alone, same, others]⟩

theorem quoted_written (text : Text) : Written (.string text) (quoted text) := by
  obtain ⟨pieces, body, same⟩ := escapes_written text
  have written := Written.string body
  rwa [same] at written

end Json

/-! ## Numbers -/

namespace Binary64

theorem roundQuotient_le (numerator denominator : Nat) :
    roundQuotient numerator denominator ≤ numerator / denominator + 1 := by
  have parity : numerator / denominator % 2 ≤ 1 := by omega
  simp only [roundQuotient]
  split
  · omega
  · split <;> omega

theorem nearestRank_le (units : Nat) :
    nearestRank units 1 ≤ ranksPerScale * (units.log2 - 52) + Nat.pow 2 53 := by
  have below : units < Nat.pow 2 (units.log2 - 52) * Nat.pow 2 53 := by
    calc units < 2 ^ (units.log2 + 1) := Nat.lt_log2_self
      _ ≤ 2 ^ (units.log2 - 52 + 53) := Nat.pow_le_pow_right (by decide) (by omega)
      _ = Nat.pow 2 (units.log2 - 52) * Nat.pow 2 53 := Nat.pow_add ..
  have quotient : units / Nat.pow 2 (units.log2 - 52) < Nat.pow 2 53 := Nat.div_lt_of_lt_mul below
  have rounded := roundQuotient_le units (Nat.pow 2 (units.log2 - 52))
  simp only [nearestRank, Nat.div_one, Nat.one_mul]
  omega

/-- Integers that a browser shows digit by digit are in the range of floats. -/
theorem ofInt?_isSome {number : Int} (short : number.natAbs < Nat.pow 10 21) :
    (ofInt? number).isSome = true := by
  -- With 10 ^ 21 < 2 ^ 70 the units of the integer have at most 1144 bits.
  have units : one * number.natAbs < 2 ^ 1144 := by
    calc one * number.natAbs < one * 10 ^ 21 := Nat.mul_lt_mul_of_pos_left short one_pos
      _ < 2 ^ 1144 := by decide +kernel
  have spacing : (one * number.natAbs).log2 - 52 ≤ 1091 := by
    by_cases zero : one * number.natAbs = 0
    · rw [zero]
      decide
    · have exponent := (Nat.log2_lt zero).mpr units
      omega
  have rank : nearestRank (one * number.natAbs) 1 < infinityRank := by
    calc nearestRank (one * number.natAbs) 1
        ≤ ranksPerScale * ((one * number.natAbs).log2 - 52) + Nat.pow 2 53 := nearestRank_le _
      _ ≤ ranksPerScale * 1091 + Nat.pow 2 53 := by gcongr
      _ < infinityRank := by decide
  simp only [ofInt?, ofQuotient?, dif_pos rank, Option.isSome_some]

end Binary64

namespace Json

theorem dumpNumber_int {value : Int} (short : value.natAbs < Nat.pow 10 21) :
    dumpNumber (.int value) = Numeral.ofInt value := by
  rw [dumpNumber, if_pos (Binary64.ofInt?_isSome short), Number.browser, if_pos short]

theorem dumpNumber_written {value : Int} (short : value.natAbs < Nat.pow 10 21) :
    Written (.number (.int value)) (dumpNumber (.int value)) := by
  rw [dumpNumber_int short]
  refine .number (.integer (Nat.le_trans (Numeral.length_digits_le (by decide) short) ?_))
  decide

/-! ## Values -/

/-- The values whose dump shows all of them: any values but floats and integers
that a browser rounds. -/
inductive IsPlain : Json → Prop where
  | null : IsPlain .null
  | bool (value : Bool) : IsPlain (.bool value)
  | int {value : Int} (short : value.natAbs < Nat.pow 10 21) : IsPlain (.number (.int value))
  | string (text : Text) : IsPlain (.string text)
  | array {items : List Json} (inside : ∀ item ∈ items, IsPlain item) : IsPlain (.array items)
  | object {fields : Fields} (distinct : fields.names.Nodup)
      (inside : ∀ member ∈ fields, IsPlain member.2) : IsPlain (.object fields)

theorem IsPlain.reorder {fields others : Fields} (plain : (Json.object fields).IsPlain)
    (same : fields.Perm others) : (Json.object others).IsPlain := by
  cases plain with
  | object distinct inside =>
      exact .object ((same.map Prod.fst).nodup_iff.mp distinct)
        fun member listed => inside member (same.mem_iff.mpr listed)

theorem isGap_space : IsGap [.scalar ' '] := by
  intro point inside
  rw [List.mem_singleton.mp inside]
  rfl

theorem isGap_newLine (depth : Nat) : IsGap (newLine depth) := by
  intro point inside
  rcases List.mem_cons.mp inside with rfl | blank
  · rfl
  · rw [List.eq_of_mem_replicate blank]
    rfl

theorem dumpItems_separated {depth : Nat} {item : Json} {rest : List Json} {after : Text}
    (written : ∀ value ∈ item :: rest, Written value (dump depth value)) (gap : IsGap after) :
    Separated Written (item :: rest)
      (newLine depth ++ dump depth item ++ dumpItems depth rest ++ after) := by
  induction rest generalizing item with
  | nil =>
      have final := written item (List.mem_cons_self ..)
      simpa [dumpItems] using Separated.last (isGap_newLine depth) final gap
  | cons next rest ih =>
      have first := written item (List.mem_cons_self ..)
      have others := ih fun value inside => written value (List.mem_cons_of_mem item inside)
      simpa [dumpItems] using Separated.more (isGap_newLine depth) first isGap_nil others

theorem member_written {depth : Nat} {value : Json} (name : Text)
    (written : Written value (dump depth value)) :
    MemberWritten Written (name, value) (quoted name ++ ": " ++ dump depth value) := by
  obtain ⟨pieces, body, same⟩ := escapes_written name
  have member := MemberWritten.intro body isGap_nil isGap_space written
  have colon : Text.ofString ": " = [.scalar ':', .scalar ' '] := rfl
  rw [same] at member
  simpa [quoted, colon] using member

theorem dumpMembers_separated {depth : Nat} {name : Text} {value : Json} {rest : Fields}
    {after : Text} (written : ∀ member ∈ (name, value) :: rest,
      Written member.2 (dump depth member.2)) (gap : IsGap after) :
    Separated (MemberWritten Written) ((name, value) :: rest)
      (newLine depth ++ quoted name ++ ": " ++ dump depth value ++ dumpMembers depth rest ++
        after) := by
  induction rest generalizing name value with
  | nil =>
      have final := member_written name (written (name, value) (List.mem_cons_self ..))
      simpa [dumpMembers] using Separated.last (isGap_newLine depth) final gap
  | cons next rest ih =>
      obtain ⟨nextName, nextValue⟩ := next
      have first := member_written name (written (name, value) (List.mem_cons_self ..))
      have others := ih fun member inside => written member (List.mem_cons_of_mem _ inside)
      simpa [dumpMembers] using Separated.more (isGap_newLine depth) first isGap_nil others

theorem IsPlain.dump_written {value : Json} (plain : value.IsPlain) (depth : Nat) :
    Written value (dump depth value) := by
  induction plain generalizing depth with
  | null => exact .null
  | bool value => cases value with
    | false => exact .false
    | true => exact .true
  | int short => exact dumpNumber_written short
  | string text => exact quoted_written text
  | @array items inside ih =>
      cases items with
      | nil => exact .emptyArray isGap_nil
      | cons item rest =>
          have separated := dumpItems_separated (fun item inside => ih item inside (depth + 1))
            (isGap_newLine depth)
          have bracket : Text.ofString "]" = [.scalar ']'] := rfl
          simpa [dump, bracket] using Written.array separated
  | @object fields distinct inside ih =>
      cases fields with
      | nil => exact .emptyObject isGap_nil
      | cons member rest =>
          obtain ⟨name, value⟩ := member
          have separated := dumpMembers_separated
            (fun member inside => ih member inside (depth + 1)) (isGap_newLine depth)
          have brace : Text.ofString "\x7d" = [.scalar '}'] := rfl
          simpa [dump, brace] using Written.object distinct separated

theorem read_dump {constants : Constants} {value : Json} (plain : value.IsPlain)
    (shallow : value.nesting ≤ nestingLimit) : read constants (dump 0 value) = .ok value :=
  read_written (plain.dump_written 0) shallow

theorem dump_injective {left right : Json} (leftPlain : left.IsPlain) (rightPlain : right.IsPlain)
    (leftShallow : left.nesting ≤ nestingLimit) (rightShallow : right.nesting ≤ nestingLimit)
    (same : dump 0 left = dump 0 right) : left = right := by
  have fromLeft : read .strict (dump 0 left) = .ok left := read_dump leftPlain leftShallow
  rw [same, read_dump rightPlain rightShallow, Except.ok.injEq] at fromLeft
  exact fromLeft.symm

end Json

/-! ## Messages -/

namespace Violation

variable {violation other : Violation} {lead otherLead : Text} {node otherNode : Fields}

/-- The sentence in front of the node that a message ends with, and that node. -/
def shownNode? : Violation → Option (Text × Fields)
  | missingMember _ node => some ("Missing field in \"expression\": ", node)
  | extraMember _ node => some ("Too many fields in \"expression\": ", node)
  | _ => none

theorem message_of_shownNode? (shown : violation.shownNode? = some (lead, node)) :
    violation.message = lead ++ Json.dump 0 (.object node) := by
  cases violation <;> cases shown <;> rfl

theorem dump_eq_of_message_eq (shown : violation.shownNode? = some (lead, node))
    (otherShown : other.shownNode? = some (otherLead, otherNode))
    (same : violation.message = other.message) :
    Json.dump 0 (.object node) = Json.dump 0 (.object otherNode) := by
  have leads : lead = otherLead := by
    have texts := (message_of_shownNode? shown).symm.trans
      (same.trans (message_of_shownNode? otherShown))
    cases violation <;> cases shown <;> cases other <;> cases otherShown
    · rfl
    · exact absurd (congrArg List.head? texts) (by simp [Text.ofString])
    · exact absurd (congrArg List.head? texts) (by simp [Text.ofString])
    · rfl
  rw [message_of_shownNode? shown, message_of_shownNode? otherShown, leads] at same
  exact List.append_cancel_left same

end Violation

namespace Document

/-- Parsing undoes dumping, so the dump determines the value, and a message that
ends with the dump of a node determines the node. -/
theorem parse_dump {value : Json} (plain : value.IsPlain)
    (shallow : value.nesting ≤ Json.nestingLimit) :
    parse (.text (value.dump 0)) = some value ∧
    (∀ other : Json, other.IsPlain → other.nesting ≤ Json.nestingLimit →
      other.dump 0 = value.dump 0 → other = value) ∧
    (∀ (violation other : Violation) (lead otherLead : Text) (node otherNode : Fields),
      violation.shownNode? = some (lead, node) → value = .object node →
      other.shownNode? = some (otherLead, otherNode) → (Json.object otherNode).IsPlain →
      (Json.object otherNode).nesting ≤ Json.nestingLimit →
      other.message = violation.message → otherNode = node) := by
  refine ⟨by rw [parse, Json.read_dump plain shallow]; rfl, ?_, ?_⟩
  · intro other otherPlain otherShallow same
    exact Json.dump_injective otherPlain plain otherShallow shallow same
  · rintro violation other lead otherLead node otherNode shown rfl otherShown otherPlain
      otherShallow same
    have dumps := Violation.dump_eq_of_message_eq otherShown shown same
    exact Json.object.inj
      (Json.dump_injective otherPlain plain otherShallow shallow dumps)

/-- Two surrogates that would form a pair, a control character and a quote in a
name, empty containers, and an integer with as many digits as are shown. -/
def tangled : Fields :=
  [([.scalar '"', .scalar '\x01'],
    .array [.string [.surrogate 0x3D, .surrogate 0x600, .scalar '\x7f'], .array [], .object []]),
    (Member.operator.name, .int (-999999999999999999999))]

theorem isPlain_tangled : (Json.object tangled).IsPlain := by
  refine .object (by decide) ?_
  have noItems : (Json.array []).IsPlain := .array (by simp)
  have noMembers : (Json.object []).IsPlain := .object (by decide) (by simp)
  have long : (Json.int (-999999999999999999999)).IsPlain := .int (by decide)
  simp only [tangled, List.forall_mem_cons]
  refine ⟨.array ?_, long, by simp⟩
  simp [noItems, noMembers, Json.IsPlain.string]

/-- The tangled node is read back, and its message tells the order of its members. -/
theorem parse_dump_tangled :
    parse (.text ((Json.object tangled).dump 0)) = some (.object tangled) ∧
    (Violation.extraMember none tangled.reverse).message ≠
      (Violation.missingMember .left tangled).message := by
  obtain ⟨parsed, _, determined⟩ := parse_dump isPlain_tangled (by decide)
  refine ⟨parsed, fun same => ?_⟩
  have reversed := isPlain_tangled.reorder tangled.reverse_perm.symm
  have kept := determined _ _ _ _ tangled tangled.reverse rfl rfl rfl reversed (by decide) same
  exact absurd (congrArg Fields.names kept) (by decide)

end Document

end Formulary
