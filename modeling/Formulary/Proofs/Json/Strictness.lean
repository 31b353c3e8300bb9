import Formulary.Document.Diagnosis
import Formulary.Store.Loading
import Formulary.Proofs.Json.Constants
import Formulary.Proofs.Json.Members

namespace Formulary

/-! # Strict and lenient reading

Documents are read strictly and tables leniently.  The two readings go side by
side through a text and part only at a constant, which strict reading refuses
and lenient reading never does.
-/

namespace Json

open Text

variable {text following remaining : Text}

/-! ## Numbers in a value -/

mutual

/-- The numbers in a value at any depth, from left to right. -/
def numbers : Json → List Number
  | number value => [value]
  | array items => numbersOfItems items
  | object fields => numbersOfFields fields
  | _ => []

def numbersOfItems : List Json → List Number
  | [] => []
  | item :: rest => item.numbers ++ numbersOfItems rest

def numbersOfFields : List (Text × Json) → List Number
  | [] => []
  | (_, value) :: rest => value.numbers ++ numbersOfFields rest

end

theorem numbersOfFields_insert {name : Text} {value : Json} {fields : Fields} {found : Number}
    (member : found ∈ numbersOfFields (fields.insert name value)) :
    found ∈ numbersOfFields fields ∨ found ∈ value.numbers := by
  induction fields with
  | nil =>
      simp only [Fields.insert, numbersOfFields, List.append_nil] at member
      exact .inr member
  | cons head rest ih =>
      obtain ⟨key, old⟩ := head
      simp only [Fields.insert] at member
      split at member
      · simp only [numbersOfFields, List.mem_append] at member ⊢
        exact member.elim .inr fun later => .inl (.inr later)
      · simp only [numbersOfFields, List.mem_append] at member ⊢
        rcases member with here | later
        · exact .inl (.inl here)
        · exact (ih later).imp_left .inr

theorem numbersOfFields_foldl {fields : Fields} {members : List (Text × Json)} {found : Number}
    (member : found ∈ numbersOfFields
      (members.foldl (fun (fields : Fields) member => fields.insert member.1 member.2) fields)) :
    found ∈ numbersOfFields fields ∨ found ∈ numbersOfFields members := by
  induction members generalizing fields with
  | nil => exact .inl member
  | cons head rest ih =>
      obtain ⟨name, value⟩ := head
      simp only [numbersOfFields, List.mem_append]
      rcases ih member with set | later
      · exact (numbersOfFields_insert set).imp_right .inl
      · exact .inr (.inr later)

theorem numbersOfFields_ofMembers {members : List (Text × Json)} {found : Number}
    (member : found ∈ numbersOfFields (Fields.ofMembers members)) :
    found ∈ numbersOfFields members := by
  simpa [numbersOfFields] using numbersOfFields_foldl member

/-! ## Strict and lenient reading side by side -/

/-- What strict and lenient reading make of one text: the same error, the same
value and the same rest, or else the text holds a constant and strict reading
refuses it. -/
inductive InStep {α : Type} (numbers : α → List Number) (text : Text) :
    Except ReadError (α × Text) → Except ReadError (α × Text) → Prop where
  | failed (error : ReadError) : InStep numbers text (.error error) (.error error)
  | read {value : α} {rest : Text} (passes : Passes .outside text .outside rest)
      (noNaN : .float .nan ∉ numbers value) :
      InStep numbers text (.ok (value, rest)) (.ok (value, rest))
  | refused {lenient : Except ReadError (α × Text)} (holds : text.holdsConstant = true) :
      InStep numbers text (.error .constantRefused) lenient

variable {α β : Type} {numbersOf : α → List Number} {numbersOfNext : β → List Number}
  {strict lenient : Except ReadError (α × Text)}

theorem InStep.behind {rest : Text} (passes : Passes .outside text .outside rest)
    (inStep : InStep numbersOf rest strict lenient) : InStep numbersOf text strict lenient := by
  cases inStep with
  | failed error => exact .failed error
  | read further noNaN => exact .read (passes.trans further) noNaN
  | refused holds => exact .refused (passes.holdsConstantFrom holds)

theorem InStep.bind {strictNext lenientNext : α × Text → Except ReadError (β × Text)}
    (first : InStep numbersOf text strict lenient)
    (next : ∀ value rest, .float .nan ∉ numbersOf value →
      InStep numbersOfNext rest (strictNext (value, rest)) (lenientNext (value, rest))) :
    InStep numbersOfNext text (strict >>= strictNext) (lenient >>= lenientNext) := by
  cases first with
  | failed error => exact .failed error
  | read passes noNaN => exact (next _ _ noNaN).behind passes
  | refused holds => exact .refused holds

/-- Reading that is neither strict nor lenient. -/
theorem InStep.same {outcome : Except ReadError (α × Text)}
    (read : ∀ value rest, outcome = .ok (value, rest) →
      Passes .outside text .outside rest ∧ .float .nan ∉ numbersOf value) :
    InStep numbersOf text outcome outcome := by
  cases outcome with
  | error error => exact .failed error
  | ok found => exact .read (read _ _ rfl).1 (read _ _ rfl).2

theorem holdsConstant_of_dropStart? {start : Text} (listed : start ∈ constants)
    (dropped : dropStart? start text = some remaining) : text.holdsConstant = true := by
  have starts : constants.any (·.startsWith text) = true :=
    List.any_eq_true.mpr ⟨start, listed, by rw [startsWith, dropped]; rfl⟩
  cases text with
  | nil => exact absurd starts (by decide)
  | cons point rest => rw [holdsConstant, holdsConstantFrom, starts]; rfl

theorem readConstant_inStep {start : Text} {value : Binary64} (listed : start ∈ constants)
    (dropped : dropStart? start text = some remaining) :
    InStep numbers text (readConstant .strict value remaining)
      (readConstant .lenient value remaining) :=
  .refused (holdsConstant_of_dropStart? listed dropped)

theorem readScalar_inStep (text : Text) :
    InStep numbers text (readScalar .strict text) (readScalar .lenient text) := by
  unfold readScalar
  split
  · rename_i rest
    refine .same fun value remaining read => ?_
    obtain ⟨_, inner, same⟩ := Except.bind_eq_ok_iff.mp read
    cases same
    exact ⟨readString_passes inner, nofun⟩
  · exact .read (Passes.word "null" (by decide)) nofun
  · exact .read (Passes.word "true" (by decide)) nofun
  · exact .read (Passes.word "false" (by decide)) nofun
  · cases nan : dropStart? "NaN" text with
    | some rest => exact readConstant_inStep (by decide) nan
    | none =>
        cases infinity : dropStart? "Infinity" text with
        | some rest => exact readConstant_inStep (by decide) infinity
        | none =>
            cases negative : dropStart? "-Infinity" text with
            | some rest => exact readConstant_inStep (by decide) negative
            | none =>
                refine .same fun value remaining read => ?_
                obtain ⟨_, inner, same⟩ := Except.bind_eq_ok_iff.mp read
                cases same
                obtain ⟨passes, noNaN⟩ := readNumber_passes inner
                exact ⟨passes, by simpa [numbers] using noNaN.symm⟩

def ValuesInStep (fuel : Nat) : Prop :=
  ∀ room text, InStep numbers text (readValue .strict fuel room text)
    (readValue .lenient fuel room text)

def ItemsInStep (fuel : Nat) : Prop :=
  ∀ room text, InStep numbersOfItems text (readItems .strict fuel room text)
    (readItems .lenient fuel room text)

def MembersInStep (fuel : Nat) : Prop :=
  ∀ room text, InStep numbersOfFields text (readMembers .strict fuel room text)
    (readMembers .lenient fuel room text)

variable {fuel room : Nat}

theorem valuesInStep_succ (inArray : ItemsInStep fuel) (inObject : MembersInStep fuel) :
    ValuesInStep (fuel + 1) := by
  intro room text
  unfold readValue
  split
  · rename_i rest
    have opened : Passes .outside (.scalar '[' :: rest) .outside (skipBlank rest) :=
      .outside ⟨by decide, by decide, by decide⟩ (skipBlank_passes rest)
    split
    · exact .failed _
    · split
      · rename_i closing
        rw [closing] at opened
        exact .read (opened.trans (Passes.word "]" (by decide))) nofun
      · refine .behind opened (.bind (inArray _ _) fun items remaining noNaN => ?_)
        exact .read .done noNaN
  · rename_i rest
    have opened : Passes .outside (.scalar '{' :: rest) .outside (skipBlank rest) :=
      .outside ⟨by decide, by decide, by decide⟩ (skipBlank_passes rest)
    split
    · exact .failed _
    · split
      · rename_i closing
        rw [closing] at opened
        exact .read (opened.trans (Passes.word "\x7d" (by decide))) nofun
      · refine .behind opened (.bind (inObject _ _) fun members remaining noNaN => ?_)
        exact .read .done fun held => noNaN (numbersOfFields_ofMembers held)
  · exact readScalar_inStep text

theorem itemsInStep_succ (values : ValuesInStep fuel) (later : ItemsInStep fuel) :
    ItemsInStep (fuel + 1) := by
  intro room text
  unfold readItems
  refine .bind (values room text) fun item afterItem noNaN => ?_
  have blank := skipBlank_passes afterItem
  dsimp only
  split
  · rename_i remaining closing
    rw [closing] at blank
    exact .read (blank.trans (Passes.word "]" (by decide))) (by simpa [numbersOfItems] using noNaN)
  · rename_i rest comma
    rw [comma] at blank
    have next := (blank.trans (Passes.word "," (by decide))).trans (skipBlank_passes rest)
    refine .behind next (.bind (later room _) fun items remaining others => ?_)
    refine .read .done ?_
    simp [numbersOfItems, noNaN, others]
  · exact .failed _

theorem readString_inStep (text : Text) :
    InStep (fun _ => []) (.scalar '"' :: text) (readString text) (readString text) :=
  .same fun _ _ read => ⟨readString_passes read, nofun⟩

theorem membersInStep_succ (values : ValuesInStep fuel) (later : MembersInStep fuel) :
    MembersInStep (fuel + 1) := by
  intro room text
  unfold readMembers
  split
  · rename_i rest
    refine .bind (readString_inStep rest) fun name afterName _ => ?_
    have named := skipBlank_passes afterName
    dsimp only
    split
    · rename_i rest colon
      rw [colon] at named
      have start := (named.trans (Passes.word ":" (by decide))).trans (skipBlank_passes rest)
      refine .behind start (.bind (values room _) fun value afterValue noNaN => ?_)
      have blank := skipBlank_passes afterValue
      dsimp only
      split
      · rename_i remaining closing
        rw [closing] at blank
        refine .read (blank.trans (Passes.word "\x7d" (by decide))) ?_
        simpa [numbersOfFields] using noNaN
      · rename_i rest comma
        rw [comma] at blank
        have next := (blank.trans (Passes.word "," (by decide))).trans (skipBlank_passes rest)
        refine .behind next (.bind (later room _) fun members remaining others => ?_)
        refine .read .done ?_
        simp [numbersOfFields, noNaN, others]
      · exact .failed _
    · exact .failed _
  · exact .failed _

theorem readers_inStep (fuel : Nat) :
    ValuesInStep fuel ∧ ItemsInStep fuel ∧ MembersInStep fuel := by
  -- The three readers call each other with one step of fuel less.
  induction fuel with
  | zero => exact ⟨fun _ _ => .failed _, fun _ _ => .failed _, fun _ _ => .failed _⟩
  | succ fuel ih =>
      obtain ⟨values, items, members⟩ := ih
      exact ⟨valuesInStep_succ items members, itemsInStep_succ values items,
        membersInStep_succ values members⟩

inductive Agree (text : Text) : Except ReadError Json → Except ReadError Json → Prop where
  | failed (error : ReadError) : Agree text (.error error) (.error error)
  | read {value : Json} (noConstant : text.holdsConstant = false)
      (noNaN : .float .nan ∉ value.numbers) : Agree text (.ok value) (.ok value)
  | refused {lenient : Except ReadError Json} (holds : text.holdsConstant = true) :
      Agree text (.error .constantRefused) lenient

theorem read_agree (text : Text) : Agree text (read .strict text) (read .lenient text) := by
  have started := (((readers_inStep (2 * text.length + 1)).1 nestingLimit
    (skipBlank text)).behind (skipBlank_passes text))
  unfold read
  split
  · exact .failed _
  · revert started
    generalize readValue .strict (2 * text.length + 1) nestingLimit (skipBlank text) = strict
    generalize readValue .lenient (2 * text.length + 1) nestingLimit (skipBlank text) = lenient
    intro started
    cases started with
    | failed error => exact .failed _
    | refused holds => exact .refused holds
    | @read value rest passes noNaN =>
        have ended := passes.trans (skipBlank_passes rest)
        simp only [bind, Except.bind]
        split
        · rename_i closed
          rw [closed] at ended
          exact .read ended.not_holdsConstantFrom noNaN
        · exact .failed _

theorem holdsConstant_of_read {value : Json} (accepted : read .strict text = .ok value) :
    text.holdsConstant = false := by
  have agree := read_agree text
  rw [accepted] at agree
  generalize read .lenient text = lenient at agree
  cases agree with
  | read noConstant noNaN => exact noConstant

/-! ## Lenient reading refuses no constant -/

def Unrefused {α : Type} (outcome : Except ReadError α) : Prop :=
  outcome ≠ .error .constantRefused

theorem Unrefused.ok {α : Type} (value : α) : Unrefused (.ok value) := by
  rintro ⟨⟩

theorem Unrefused.flaw {α : Type} (kind : Flaw) (place : Nat) :
    Unrefused (.error (.flaw kind place) : Except ReadError α) := by
  rintro ⟨⟩

theorem Unrefused.longNumeral {α : Type} (digits : Nat) :
    Unrefused (.error (.longNumeral digits) : Except ReadError α) := by
  rintro ⟨⟩

theorem Unrefused.nestedTooDeeply {α : Type} :
    Unrefused (.error .nestedTooDeeply : Except ReadError α) := by
  rintro ⟨⟩

theorem Unrefused.bind {α β : Type} {outcome : Except ReadError α}
    {next : α → Except ReadError β} (first : Unrefused outcome)
    (further : ∀ value, Unrefused (next value)) : Unrefused (outcome >>= next) := by
  cases outcome with
  | error error => exact fun same => first (by cases same; rfl)
  | ok value => exact further value

theorem readPieces_unrefused (opening : Nat) (text : Text) :
    Unrefused (readPieces opening text) := by
  induction text using readPieces.induct with
  | case2 rest => exact .ok _
  | case5 first second third fourth next following value known ih =>
      simp only [readPieces, known]
      exact ih.bind fun _ => .ok _
  | case8 letter following noUnicode point known ih =>
      simp only [readPieces, known]
      exact ih.bind fun _ => .ok _
  | case10 point rest noQuote noBackslash visible ih =>
      simp only [readPieces, if_neg visible]
      exact ih.bind fun _ => .ok _
  | case1 => exact .flaw _ _
  | case3 => exact .flaw _ _
  | case4 first second third fourth next following unknown =>
      simp only [readPieces, unknown]
      exact .flaw _ _
  | case6 digits short =>
      simp only [readPieces]
      exact .flaw _ _
  | case7 letter following noUnicode unknown =>
      simp only [readPieces, unknown]
      exact .flaw _ _
  | case9 point rest noQuote noBackslash control =>
      simp only [readPieces, if_pos control]
      exact .flaw _ _

theorem readString_unrefused (text : Text) : Unrefused (readString text) :=
  (readPieces_unrefused _ text).bind fun _ => .ok _

theorem readNumber_unrefused (text : Text) : Unrefused (readNumber text) := by
  simp only [readNumber]
  split
  · exact .flaw _ _
  · split
    · split
      · exact .longNumeral _
      · exact .ok _
    · exact .ok _

theorem readScalar_unrefused (text : Text) : Unrefused (readScalar .lenient text) := by
  unfold readScalar
  split
  · exact (readString_unrefused _).bind fun _ => .ok _
  · exact .ok _
  · exact .ok _
  · exact .ok _
  · repeat' split
    · exact .ok _
    · exact .ok _
    · exact .ok _
    · exact (readNumber_unrefused text).bind fun _ => .ok _

theorem readValue_unrefused
    (items : ∀ room text, Unrefused (readItems .lenient fuel room text))
    (members : ∀ room text, Unrefused (readMembers .lenient fuel room text)) (room : Nat)
    (text : Text) : Unrefused (readValue .lenient (fuel + 1) room text) := by
  unfold readValue
  split
  · split
    · exact .nestedTooDeeply
    · split
      · exact .ok _
      · exact (items _ _).bind fun _ => .ok _
  · split
    · exact .nestedTooDeeply
    · split
      · exact .ok _
      · exact (members _ _).bind fun _ => .ok _
  · exact readScalar_unrefused text

theorem readItems_unrefused
    (values : ∀ room text, Unrefused (readValue .lenient fuel room text))
    (items : ∀ room text, Unrefused (readItems .lenient fuel room text)) (room : Nat)
    (text : Text) : Unrefused (readItems .lenient (fuel + 1) room text) := by
  unfold readItems
  refine (values room text).bind fun _ => ?_
  dsimp only
  split
  · exact .ok _
  · exact (items room _).bind fun _ => .ok _
  · exact .flaw _ _

theorem readMembers_unrefused
    (values : ∀ room text, Unrefused (readValue .lenient fuel room text))
    (members : ∀ room text, Unrefused (readMembers .lenient fuel room text)) (room : Nat)
    (text : Text) : Unrefused (readMembers .lenient (fuel + 1) room text) := by
  unfold readMembers
  split
  · refine (readString_unrefused _).bind fun _ => ?_
    dsimp only
    split
    · refine (values room _).bind fun _ => ?_
      split
      · exact .ok _
      · exact (members room _).bind fun _ => .ok _
      · exact .flaw _ _
    · exact .flaw _ _
  · exact .flaw _ _

theorem readers_unrefused (fuel : Nat) :
    (∀ room text, Unrefused (readValue .lenient fuel room text)) ∧
    (∀ room text, Unrefused (readItems .lenient fuel room text)) ∧
    (∀ room text, Unrefused (readMembers .lenient fuel room text)) := by
  induction fuel with
  | zero => exact ⟨fun _ _ => .flaw _ _, fun _ _ => .flaw _ _, fun _ _ => .flaw _ _⟩
  | succ fuel ih =>
      obtain ⟨values, items, members⟩ := ih
      exact ⟨readValue_unrefused items members, readItems_unrefused values items,
        readMembers_unrefused values members⟩

theorem Unrefused.fromStart {α : Type} {outcome : Except ReadError α}
    (unrefused : Unrefused outcome) (total : Nat) :
    Unrefused (outcome.mapError (ReadError.fromStart total)) := by
  cases outcome with
  | ok value => exact .ok _
  | error error =>
      cases error with
      | constantRefused => exact absurd rfl unrefused
      | flaw kind place => exact .flaw _ _
      | longNumeral digits => exact .longNumeral _
      | nestedTooDeeply => exact .nestedTooDeeply

theorem read_unrefused (text : Text) : Unrefused (read .lenient text) := by
  have value := (readers_unrefused (2 * text.length + 1)).1 nestingLimit (skipBlank text)
  refine Unrefused.fromStart ?_ text.length
  split
  · exact .flaw _ _
  · refine value.bind fun found => ?_
    dsimp only
    split
    · exact .ok _
    · exact .flaw _ _

end Json

namespace Store

theorem decodeTable_eq_ok_iff (path : Path) {text : Text} {table : Json} :
    decodeTable path text = .ok table ↔ Json.read .lenient text = .ok table := by
  unfold decodeTable
  split <;> simp [*]

end Store

namespace Document

/-- Documents are the texts that are tables too and hold no constant. -/
theorem parse_within_decodeTable (text : Text) :
    (∀ value, parse (.text text) = some value →
      (∀ path, Store.decodeTable path text = .ok value) ∧ .float .nan ∉ value.numbers) ∧
    (∀ path value, Store.decodeTable path text = .ok value → parse (.text text) = none →
      text.holdsConstant = true) ∧
    (text.holdsConstant = true → parse (.text text) = none) := by
  have agree := Json.read_agree text
  simp only [Store.decodeTable_eq_ok_iff, parse]
  revert agree
  generalize Json.read .strict text = strict
  generalize Json.read .lenient text = lenient
  intro agree
  cases agree with
  | failed error => simp [Except.toOption]
  | read noConstant noNaN => simp [Except.toOption, noConstant, noNaN]
  | refused holds => simp [Except.toOption, holds]

end Document

end Formulary
