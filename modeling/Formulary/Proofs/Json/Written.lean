import Formulary.Proofs.Json.Members
import Formulary.Proofs.Json.NumberToken

namespace Formulary.Json

/-! # Written values

The texts that write a value: its tokens in their order, with white space
between them.  Reading such a text gives the value, and leaves what follows.
-/

/-! ## Strings -/

/-- A piece of a string as it stands between the quotes. -/
inductive Piece.Written : Piece → Text → Prop where
  | plain {point : CodePoint} (visible : 0x20 ≤ point.value) (noQuote : point ≠ .scalar '"')
      (noBackslash : point ≠ .scalar '\\') : Written (.plain point) [point]
  | escaped {letter point : CodePoint} (known : escaped? letter = some point) :
      Written (.plain point) [.scalar '\\', letter]
  | unit {first second third fourth : CodePoint} {value : Nat}
      (known : unit? first second third fourth = some value) :
      Written (.unit value) [.scalar '\\', .scalar 'u', first, second, third, fourth]

inductive PiecesWritten : List Piece → Text → Prop where
  | nil : PiecesWritten [] []
  | cons {piece : Piece} {pieces : List Piece} {text others : Text} (first : piece.Written text)
      (rest : PiecesWritten pieces others) : PiecesWritten (piece :: pieces) (text ++ others)

variable {constants : Constants} {opening : Nat} {piece : Piece} {pieces : List Piece}
  {text following remaining : Text}

theorem readPieces_piece (written : piece.Written text)
    (read : readPieces opening following = .ok (pieces, remaining)) :
    readPieces opening (text ++ following) = .ok (piece :: pieces, remaining) := by
  cases written with
  | @plain point visible noQuote noBackslash =>
      have printable : ¬ point.value < 0x20 := Nat.not_lt.mpr visible
      simp [readPieces, printable, read, bind, Except.bind, pure, Except.pure]
  | @escaped letter point known =>
      have noUnicode : letter ≠ .scalar 'u' := by
        rintro rfl
        cases known
      simp [readPieces, known, read, bind, Except.bind, pure, Except.pure]
  | @unit first second third fourth value known =>
      -- The four digits are read only if something follows them, as it does here:
      -- the closing quote at least.
      cases following with
      | nil => cases read
      | cons next following =>
          simp [readPieces, known, read, bind, Except.bind, pure, Except.pure]

theorem readPieces_written (written : PiecesWritten pieces text) :
    readPieces opening (text ++ .scalar '"' :: following) = .ok (pieces, following) := by
  induction written with
  | nil => rfl
  | cons first rest ih =>
      rw [List.append_assoc]
      exact readPieces_piece first ih

theorem readString_written (written : PiecesWritten pieces text) (following : Text) :
    readString (text ++ .scalar '"' :: following) = .ok (Piece.text pieces, following) := by
  simp only [readString, readPieces_written written, bind, Except.bind, pure, Except.pure]

/-! ## Values -/

def IsGap (text : Text) : Prop := ∀ point ∈ text, isBlank point = true

/-- Things that are written one after the other, with commas between them and
white space around each. -/
inductive Separated {α : Type} (written : α → Text → Prop) : List α → Text → Prop where
  | last {value : α} {before text after : Text} (gapBefore : IsGap before)
      (final : written value text) (gapAfter : IsGap after) :
      Separated written [value] (before ++ (text ++ after))
  | more {value : α} {values : List α} {before text after others : Text}
      (gapBefore : IsGap before) (first : written value text) (gapAfter : IsGap after)
      (rest : Separated written values others) :
      Separated written (value :: values) (before ++ (text ++ (after ++ .scalar ',' :: others)))

/-- A member: its name, a colon, and its value. -/
inductive MemberWritten (written : Json → Text → Prop) : Text × Json → Text → Prop where
  | intro {value : Json} {pieces : List Piece} {name before after text : Text}
      (named : PiecesWritten pieces name) (gapBefore : IsGap before) (gapAfter : IsGap after)
      (valued : written value text) :
      MemberWritten written (Piece.text pieces, value)
        (.scalar '"' :: (name ++ .scalar '"' :: (before ++ .scalar ':' :: (after ++ text))))

/-- The text writes the value, from the first code point of its first token to
the last one of its last token. -/
inductive Written : Json → Text → Prop where
  | null : Written .null "null"
  | true : Written (.bool true) "true"
  | false : Written (.bool false) "false"
  | number {value : Number} {text : Text} (token : NumberWritten value text) :
      Written (.number value) text
  | string {pieces : List Piece} {text : Text} (body : PiecesWritten pieces text) :
      Written (.string (Piece.text pieces)) (.scalar '"' :: (text ++ [.scalar '"']))
  | emptyArray {gap : Text} (blank : IsGap gap) :
      Written (.array []) (.scalar '[' :: (gap ++ [.scalar ']']))
  | array {items : List Json} {text : Text} (inside : Separated Written items text) :
      Written (.array items) (.scalar '[' :: (text ++ [.scalar ']']))
  | emptyObject {gap : Text} (blank : IsGap gap) :
      Written (.object []) (.scalar '{' :: (gap ++ [.scalar '}']))
  | object {fields : Fields} {text : Text} (distinct : fields.names.Nodup)
      (inside : Separated (MemberWritten Written) fields text) :
      Written (.object fields) (.scalar '{' :: (text ++ [.scalar '}']))

variable {value : Json} {items : List Json} {fields : Fields} {gap : Text} {fuel room : Nat}

theorem isGap_nil : IsGap [] := by
  intro point inside
  cases inside

theorem skipBlank_gap (blank : IsGap gap) : skipBlank (gap ++ following) = skipBlank following :=
  List.dropWhile_append_of_pos blank

theorem skipBlank_cons {point : CodePoint} {rest : Text} (visible : isBlank point = false) :
    skipBlank (point :: rest) = point :: rest := by
  simp [skipBlank, visible]

theorem skipBlank_token {point : CodePoint} {rest : Text} (blank : IsGap gap)
    (visible : isBlank point = false) : skipBlank (gap ++ point :: rest) = point :: rest := by
  rw [skipBlank_gap blank, skipBlank_cons visible]

/-- What a value or a member can start with: no white space, no closing bracket
and no byte order mark. -/
structure StartsValue (point : CodePoint) : Prop where
  visible : isBlank point = false
  noBracket : point ≠ .scalar ']'
  noBrace : point ≠ .scalar '}'
  noMark : point ≠ .scalar '\uFEFF'

theorem startsValue_of_digit {point : CodePoint} (digit : point.digit? ≠ none) :
    StartsValue point := by
  refine ⟨?_, ?_, ?_, ?_⟩
  · cases blank : isBlank point with
    | false => rfl
    | true => exact absurd (digit?_of_mem_followers (mem_followers_of_isBlank blank)) digit
  all_goals
    rintro rfl
    exact absurd rfl digit

theorem Written.starts (written : Written value text) :
    ∃ point rest, text = point :: rest ∧ StartsValue point := by
  cases written with
  | number token =>
      have starts := startsNumber_written token []
      rw [List.append_nil] at starts
      obtain ⟨point, rest, same, rfl | digit⟩ := starts.eq_cons
      · exact ⟨_, rest, same, rfl, by decide, by decide, by decide⟩
      · exact ⟨point, rest, same, startsValue_of_digit digit⟩
  | _ => exact ⟨_, _, rfl, rfl, by decide, by decide, by decide⟩

theorem Written.skipBlank (written : Written value text) (following : Text) :
    skipBlank (text ++ following) = text ++ following := by
  obtain ⟨point, rest, rfl, starts⟩ := written.starts
  exact skipBlank_cons starts.visible

theorem endsValue_gap {point : CodePoint} {rest : Text} (blank : IsGap gap)
    (listed : point ∈ followers) : EndsValue (gap ++ point :: rest) := by
  cases gap with
  | nil => exact endsValue_cons listed
  | cons first gap =>
      exact endsValue_cons (mem_followers_of_isBlank (blank first (List.mem_cons_self ..)))

/-- With this fuel, texts up to this length are read as the values that they write. -/
def ReadsValues (constants : Constants) (fuel : Nat) : Prop :=
  ∀ value text room following, Written value text → text.length ≤ fuel → value.nesting ≤ room →
    EndsValue following → readValue constants fuel room (text ++ following) = .ok (value, following)

def ReadsItems (constants : Constants) (fuel : Nat) : Prop :=
  ∀ items text room following, Separated Written items text → text.length < fuel →
    nestingOfItems items ≤ room →
    readItems constants fuel room (skipBlank (text ++ .scalar ']' :: following)) =
      .ok (items, following)

def ReadsMembers (constants : Constants) (fuel : Nat) : Prop :=
  ∀ fields text room following, Separated (MemberWritten Written) fields text →
    text.length < fuel → nestingOfFields fields ≤ room →
    readMembers constants fuel room (skipBlank (text ++ .scalar '}' :: following)) =
      .ok (fields, following)

theorem readsItems_succ (values : ReadsValues constants fuel) (later : ReadsItems constants fuel) :
    ReadsItems constants (fuel + 1) := by
  intro items text room following separated enough shallow
  cases separated with
  | @last item before text after gapBefore final gapAfter =>
      simp only [List.length_append] at enough
      simp only [nestingOfItems, Nat.max_le] at shallow
      have read := values item text room (after ++ .scalar ']' :: following) final (by omega)
        shallow.1 (endsValue_gap gapAfter (by decide))
      have closing : skipBlank (after ++ .scalar ']' :: following) = .scalar ']' :: following :=
        skipBlank_token gapAfter rfl
      rw [List.append_assoc, skipBlank_gap gapBefore, List.append_assoc, final.skipBlank, readItems]
      simp only [read, closing, bind, Except.bind, pure, Except.pure]
  | @more item items before text after others gapBefore first gapAfter rest =>
      simp only [List.length_append, List.length_cons] at enough
      simp only [nestingOfItems, Nat.max_le] at shallow
      have read := values item text room
        (after ++ .scalar ',' :: (others ++ .scalar ']' :: following))
        first (by omega) shallow.1 (endsValue_gap gapAfter (by decide))
      have comma : skipBlank (after ++ .scalar ',' :: (others ++ .scalar ']' :: following)) =
          .scalar ',' :: (others ++ .scalar ']' :: following) := skipBlank_token gapAfter rfl
      have others := later items others room following rest (by omega) shallow.2
      simp only [List.append_assoc, List.cons_append]
      rw [skipBlank_gap gapBefore, first.skipBlank, readItems]
      simp only [read, comma, others, bind, Except.bind, pure, Except.pure]

/-- The name of a member and its value are read, whatever follows them. -/
theorem readMembers_member {name before after text : Text} {pieces : List Piece}
    (values : ReadsValues constants fuel) (named : PiecesWritten pieces name)
    (gapBefore : IsGap before) (gapAfter : IsGap after) (valued : Written value text)
    (enough : text.length ≤ fuel) (shallow : value.nesting ≤ room) (ends : EndsValue following) :
    readMembers constants (fuel + 1) room (.scalar '"' ::
        (name ++ .scalar '"' :: (before ++ .scalar ':' :: (after ++ (text ++ following))))) =
      (match skipBlank following with
      | .scalar '}' :: remaining => .ok ([(Piece.text pieces, value)], remaining)
      | .scalar ',' :: rest => do
        let (members, remaining) ← readMembers constants fuel room (skipBlank rest)
        return ((Piece.text pieces, value) :: members, remaining)
      | other => .error (.flaw .commaExpected other.length)) := by
  have colon : skipBlank (before ++ .scalar ':' :: (after ++ (text ++ following))) =
      .scalar ':' :: (after ++ (text ++ following)) := skipBlank_token gapBefore rfl
  have start : skipBlank (after ++ (text ++ following)) = text ++ following := by
    rw [skipBlank_gap gapAfter, valued.skipBlank]
  have read := values value text room following valued enough shallow ends
  rw [readMembers]
  simp only [readString_written named _, colon, start, read, bind, Except.bind]
  rfl

theorem readsMembers_succ (values : ReadsValues constants fuel)
    (later : ReadsMembers constants fuel) : ReadsMembers constants (fuel + 1) := by
  intro fields text room following separated enough shallow
  cases separated with
  | @last member before text after gapBefore final gapAfter =>
      cases final with
      | @intro value pieces name beforeColon afterColon text named gapColon gapValue valued =>
          simp only [List.length_append, List.length_cons] at enough
          simp only [nestingOfFields, Nat.max_le] at shallow
          have ends : EndsValue (after ++ .scalar '}' :: following) :=
            endsValue_gap gapAfter (by decide)
          have read := readMembers_member values named gapColon gapValue valued (by omega)
            shallow.1 ends
          have closing : skipBlank (after ++ .scalar '}' :: following) =
              .scalar '}' :: following := skipBlank_token gapAfter rfl
          simp only [List.append_assoc, List.cons_append]
          rw [skipBlank_gap gapBefore, skipBlank_cons rfl, read, closing]
          rfl
  | @more member members before text after others gapBefore first gapAfter rest =>
      cases first with
      | @intro value pieces name beforeColon afterColon text named gapColon gapValue valued =>
          simp only [List.length_append, List.length_cons] at enough
          simp only [nestingOfFields, Nat.max_le] at shallow
          have ends : EndsValue (after ++ .scalar ',' :: (others ++ .scalar '}' :: following)) :=
            endsValue_gap gapAfter (by decide)
          have read := readMembers_member values named gapColon gapValue valued (by omega)
            shallow.1 ends
          have comma : skipBlank (after ++ .scalar ',' :: (others ++ .scalar '}' :: following)) =
              .scalar ',' :: (others ++ .scalar '}' :: following) := skipBlank_token gapAfter rfl
          have others := later members others room following rest (by omega) shallow.2
          simp only [List.append_assoc, List.cons_append]
          rw [skipBlank_gap gapBefore, skipBlank_cons rfl, read, comma]
          simp only [others, bind, Except.bind, pure, Except.pure]

theorem MemberWritten.starts {member : Text × Json} (written : MemberWritten Written member text) :
    ∃ point rest, text = point :: rest ∧ StartsValue point := by
  cases written with
  | intro named gapBefore gapAfter valued =>
      exact ⟨_, _, rfl, rfl, by decide, by decide, by decide⟩

/-- Behind the gap in front of written things stands the start of the first one. -/
theorem Separated.skipBlank {α : Type} {written : α → Text → Prop} {values : List α}
    (starts : ∀ value text, written value text →
      ∃ point rest, text = point :: rest ∧ StartsValue point)
    (separated : Separated written values text) (following : Text) :
    ∃ point rest, Json.skipBlank (text ++ following) = point :: rest ∧ StartsValue point := by
  cases separated with
  | @last value before text after gapBefore final gapAfter =>
      obtain ⟨point, rest, rfl, start⟩ := starts value text final
      refine ⟨point, rest ++ after ++ following, ?_, start⟩
      rw [List.append_assoc, skipBlank_gap gapBefore]
      simp [skipBlank_cons start.visible]
  | @more value values before text after others gapBefore first gapAfter rest =>
      obtain ⟨point, rest, rfl, start⟩ := starts value text first
      refine ⟨point, rest ++ after ++ .scalar ',' :: others ++ following, ?_, start⟩
      rw [List.append_assoc, skipBlank_gap gapBefore]
      simp [skipBlank_cons start.visible]

theorem readsValues_succ (inArray : ReadsItems constants fuel)
    (inObject : ReadsMembers constants fuel) : ReadsValues constants (fuel + 1) := by
  intro value text room following written enough shallow ends
  cases written with
  | null => rfl
  | true => rfl
  | false => rfl
  | number token =>
      have starts := startsNumber_written token following
      rw [readValue_number starts, readScalar_number starts, readNumber_written token ends]
      rfl
  | @string pieces text body =>
      have read := readString_written body following
      simp only [List.cons_append, List.append_assoc, List.nil_append, readValue, readScalar, read,
        bind, Except.bind, pure, Except.pure]
      rfl
  | @emptyArray gap blank =>
      obtain ⟨room, rfl⟩ := Nat.exists_eq_succ_of_ne_zero (Nat.ne_zero_of_lt shallow)
      have closing : Json.skipBlank (gap ++ .scalar ']' :: following) = .scalar ']' :: following :=
        skipBlank_token blank rfl
      simp only [List.cons_append, List.append_assoc, List.nil_append, readValue, closing]
  | @array items text inside =>
      obtain ⟨room, rfl⟩ := Nat.exists_eq_succ_of_ne_zero (Nat.ne_zero_of_lt shallow)
      have enough : text.length < fuel := by simpa [Nat.succ_le_iff] using enough
      have read := inArray items text room following inside enough (Nat.le_of_succ_le_succ shallow)
      obtain ⟨point, rest, start, first⟩ :=
        inside.skipBlank (fun _ _ => Written.starts) (.scalar ']' :: following)
      rw [start] at read
      simp only [List.cons_append, List.append_assoc, List.nil_append, readValue, start]
      split
      · exact absurd (List.cons.inj ‹_›).1 first.noBracket
      · simp only [read, bind, Except.bind, pure, Except.pure]
  | @emptyObject gap blank =>
      obtain ⟨room, rfl⟩ := Nat.exists_eq_succ_of_ne_zero (Nat.ne_zero_of_lt shallow)
      have closing : Json.skipBlank (gap ++ .scalar '}' :: following) = .scalar '}' :: following :=
        skipBlank_token blank rfl
      simp only [List.cons_append, List.append_assoc, List.nil_append, readValue, closing]
  | @object fields text distinct inside =>
      obtain ⟨room, rfl⟩ := Nat.exists_eq_succ_of_ne_zero (Nat.ne_zero_of_lt shallow)
      have enough : text.length < fuel := by simpa [Nat.succ_le_iff] using enough
      have read := inObject fields text room following inside enough
        (Nat.le_of_succ_le_succ shallow)
      obtain ⟨point, rest, start, first⟩ :=
        inside.skipBlank (fun _ _ => MemberWritten.starts) (.scalar '}' :: following)
      rw [start] at read
      simp only [List.cons_append, List.append_assoc, List.nil_append, readValue, start]
      split
      · exact absurd (List.cons.inj ‹_›).1 first.noBrace
      · simp only [read, Fields.ofMembers_of_nodup distinct, bind, Except.bind, pure, Except.pure]

theorem reads_written (constants : Constants) (fuel : Nat) :
    ReadsValues constants fuel ∧ ReadsItems constants fuel ∧ ReadsMembers constants fuel := by
  -- The three readers call each other with one step of fuel less, so the three
  -- statements go up together.
  induction fuel with
  | zero =>
      refine ⟨?_, fun _ _ _ _ _ enough => absurd enough (Nat.not_lt_zero _),
        fun _ _ _ _ _ enough => absurd enough (Nat.not_lt_zero _)⟩
      intro value text room following written enough
      obtain ⟨point, rest, rfl, _⟩ := written.starts
      exact absurd enough (Nat.not_succ_le_zero _)
  | succ fuel ih =>
      obtain ⟨values, items, members⟩ := ih
      exact ⟨readsValues_succ items members, readsItems_succ values items,
        readsMembers_succ values members⟩

theorem endsValue_nil : EndsValue [] := by
  intro point rest same
  cases same

/-- A text that writes a value is read as that value, unless containers are
nested too deeply in it. -/
theorem read_written (written : Written value text) (shallow : value.nesting ≤ nestingLimit) :
    read constants text = .ok value := by
  have found : readValue constants (2 * text.length + 1) nestingLimit text = .ok (value, []) := by
    have reads := (reads_written constants (2 * text.length + 1)).1
    simpa using reads value text nestingLimit [] written (by omega) shallow endsValue_nil
  have start : Json.skipBlank text = text := by
    simpa using written.skipBlank []
  unfold read
  split
  · obtain ⟨point, rest, same, first⟩ := written.starts
    exact absurd (List.cons.inj same).1.symm first.noMark
  · rw [start, found]
    rfl

end Formulary.Json
