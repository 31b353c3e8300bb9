import Mathlib.Data.List.Sort
import Formulary.Config
import Formulary.Proofs.CommandLine.Printing
import Formulary.Proofs.Text.Order

namespace Formulary

/-! # What messages about settings show

A value is shown with all its parts, so an integer that is too long anywhere in
it, or a part that is too many levels below it, keeps the message from being
written.  Keys are shown in the order of texts.
-/

namespace Text

theorem atMost_iff {left right : Text} : AtMost left right ↔ ¬ before right left = true := by
  constructor
  · intro atMost after
    rcases atMost with rfl | less
    · exact List.lt_irrefl _ ((before_iff _ _).mp after)
    · exact List.lt_asymm ((before_iff _ _).mp less) ((before_iff _ _).mp after)
  · intro notAfter
    obtain same | less | greater := before_trichotomy left right
    · exact .inl same
    · exact .inr less
    · exact absurd greater notAfter

instance : DecidableRel AtMost := fun left right =>
  inferInstanceAs (Decidable (left = right ∨ before left right = true))

instance : IsTrans Text AtMost := ⟨fun _ _ _ => AtMost.trans⟩

instance : Std.Total AtMost :=
  ⟨fun left right => by
    obtain same | less | greater := before_trichotomy left right
    · exact .inl (.inl same)
    · exact .inl (.inr less)
    · exact .inr (.inr greater)⟩

end Text

namespace Yaml

namespace Atom

open Text (AtMost)

theorem place_texts (key : Text) (keys : List Text) :
    place (.text key) (keys.map .text) = some ((keys.orderedInsert AtMost key).map .text) := by
  induction keys with
  | nil => rfl
  | cons first rest ih =>
      rw [List.map_cons, place, ih, List.orderedInsert_cons]
      by_cases precedes : Text.before first key = true
      · rw [if_neg (mt Text.atMost_iff.mp (not_not.mpr precedes))]
        simp [before?, precedes]
      · rw [if_pos (Text.atMost_iff.mpr precedes)]
        simp [before?, precedes]

/-- Keys that are texts are put in the order of texts. -/
theorem sorted?_texts (keys : List Text) :
    sorted? (keys.map .text) = some ((keys.insertionSort AtMost).map .text) := by
  induction keys with
  | nil => rfl
  | cons key rest ih =>
      cases rest with
      | nil => rfl
      | cons next rest =>
          rw [List.map_cons] at ih
          rw [List.map_cons, List.map_cons, sorted?, ih, Option.bind_eq_bind, Option.bind_some,
            place_texts, List.insertionSort_cons]
          · rfl
          · intro single
            cases single

theorem levels_pos (atom : Atom) : 0 < atom.levels := by
  unfold levels Moment.levels
  split
  · split
    · exact Nat.one_pos
    · split <;> decide
  · exact Nat.one_pos

end Atom

namespace Value

/-- A part stands in a value, a number of levels below it.  There is a list
between a set and its members, and a pair between a collection of pairs and what
is paired. -/
inductive Holds (part : Value) : (level : Nat) → Value → Prop
  | here : Holds part 0 part
  | item {level : Nat} {items : List Value} {value : Value} (listed : value ∈ items)
      (inside : Holds part level value) : Holds part (level + 1) (.sequence items)
  | key {level : Nat} {members : List (Atom × Value)} {key : Atom} {value : Value}
      (listed : (key, value) ∈ members) (inside : Holds part level (.atom key)) :
      Holds part (level + 1) (.mapping members)
  | member {level : Nat} {members : List (Atom × Value)} {key : Atom} {value : Value}
      (listed : (key, value) ∈ members) (inside : Holds part level value) :
      Holds part (level + 1) (.mapping members)
  | element {level : Nat} {members : List Atom} {key : Atom} (listed : key ∈ members)
      (inside : Holds part level (.atom key)) : Holds part (level + 2) (.set members)
  | first {level : Nat} {pairs : List (Value × Value)} {left right : Value}
      (listed : (left, right) ∈ pairs) (inside : Holds part level left) :
      Holds part (level + 2) (.pairs pairs)
  | second {level : Nat} {pairs : List (Value × Value)} {left right : Value}
      (listed : (left, right) ∈ pairs) (inside : Holds part level right) :
      Holds part (level + 2) (.pairs pairs)

/-- How many values stand inside each other where a value without its parts is shown. -/
def span : Value → Nat
  | atom value => value.levels
  | _ => 1

/-- What keeps a value from being shown where `room` values can stand inside each
other: a part too far below it, or an integer with more digits than can be written. -/
inductive Unshowable (room : Nat) (value : Value) : Fatal → Prop
  | deep {part : Value} {level : Nat} (inside : Holds part level value)
      (beyond : room < level + part.span) : Unshowable room value .nestedTooDeeply
  | long {whole : Int} {level : Nat} (inside : Holds (.atom (.number (.int whole))) level value)
      (tooLong : 10 ^ Number.digitLimit ≤ whole.natAbs) : Unshowable room value .unprintable

variable {room : Nat} {fatal : Fatal} {value : Value}

/-! ### Parts one by one -/

theorem faultOfItems?_eq_none_iff {items : List Value} :
    faultOfItems? room items = none ↔ ∀ value ∈ items, value.fault? room = none := by
  induction items with
  | nil => exact iff_of_true rfl (List.forall_mem_nil _)
  | cons value rest ih =>
      rw [List.forall_mem_cons, ← ih]
      exact Option.or_eq_none_iff

theorem faultOfMembers?_eq_none_iff {members : List (Atom × Value)} :
    faultOfMembers? room members = none ↔
      ∀ member ∈ members, member.1.fault? room = none ∧ member.2.fault? room = none := by
  induction members with
  | nil => exact iff_of_true rfl (List.forall_mem_nil _)
  | cons member rest ih =>
      obtain ⟨key, value⟩ := member
      rw [List.forall_mem_cons, ← ih, and_assoc, ← Option.or_eq_none_iff]
      exact Option.or_eq_none_iff

theorem faultOfPairs?_eq_none_iff {pairs : List (Value × Value)} :
    faultOfPairs? room pairs = none ↔
      ∀ pair ∈ pairs, pair.1.fault? room = none ∧ pair.2.fault? room = none := by
  induction pairs with
  | nil => exact iff_of_true rfl (List.forall_mem_nil _)
  | cons pair rest ih =>
      obtain ⟨left, right⟩ := pair
      rw [List.forall_mem_cons, ← ih, and_assoc, ← Option.or_eq_none_iff]
      exact Option.or_eq_none_iff

theorem exists_of_faultOfItems? {items : List Value}
    (fault : faultOfItems? room items = some fatal) :
    ∃ value ∈ items, value.fault? room = some fatal := by
  induction items with
  | nil => cases fault
  | cons value rest ih =>
      rcases Option.or_eq_some_iff.mp fault with here | ⟨_, later⟩
      · exact ⟨value, List.mem_cons_self, here⟩
      · obtain ⟨other, listed, found⟩ := ih later
        exact ⟨other, List.mem_cons_of_mem _ listed, found⟩

theorem exists_of_faultOfMembers? {members : List (Atom × Value)}
    (fault : faultOfMembers? room members = some fatal) :
    ∃ member ∈ members, member.1.fault? room = some fatal ∨ member.2.fault? room = some fatal := by
  induction members with
  | nil => cases fault
  | cons member rest ih =>
      obtain onKey | ⟨_, behind⟩ := Option.or_eq_some_iff.mp fault
      · exact ⟨member, List.mem_cons_self, .inl onKey⟩
      obtain onValue | ⟨_, later⟩ := Option.or_eq_some_iff.mp behind
      · exact ⟨member, List.mem_cons_self, .inr onValue⟩
      · obtain ⟨other, listed, found⟩ := ih later
        exact ⟨other, List.mem_cons_of_mem _ listed, found⟩

theorem exists_of_faultOfPairs? {pairs : List (Value × Value)}
    (fault : faultOfPairs? room pairs = some fatal) :
    ∃ pair ∈ pairs, pair.1.fault? room = some fatal ∨ pair.2.fault? room = some fatal := by
  induction pairs with
  | nil => cases fault
  | cons pair rest ih =>
      obtain onLeft | ⟨_, behind⟩ := Option.or_eq_some_iff.mp fault
      · exact ⟨pair, List.mem_cons_self, .inl onLeft⟩
      obtain onRight | ⟨_, later⟩ := Option.or_eq_some_iff.mp behind
      · exact ⟨pair, List.mem_cons_self, .inr onRight⟩
      · obtain ⟨other, listed, found⟩ := ih later
        exact ⟨other, List.mem_cons_of_mem _ listed, found⟩

/-! ### Values -/

theorem fault?_zero : value.fault? 0 = some .nestedTooDeeply := by
  cases value <;> rfl

theorem ne_zero_of_fault?_eq_none (shown : value.fault? room = none) : room ≠ 0 := by
  rintro rfl
  cases fault?_zero.symm.trans shown

theorem fault?_atom {atom : Atom} : (Value.atom atom).fault? room = atom.fault? room := by
  cases room with
  | zero => exact fault?_zero.trans (if_pos atom.levels_pos).symm
  | succ room => rfl

theorem fault?_sequence_eq_none {items : List Value}
    (shown : (sequence items).fault? room = none) :
    ∀ value ∈ items, value.fault? (room - 1) = none := by
  cases room with
  | zero => cases shown
  | succ room => exact faultOfItems?_eq_none_iff.mp shown

theorem fault?_mapping_eq_none {members : List (Atom × Value)}
    (shown : (mapping members).fault? room = none) :
    ∀ member ∈ members,
      (Value.atom member.1).fault? (room - 1) = none ∧ member.2.fault? (room - 1) = none := by
  cases room with
  | zero => cases shown
  | succ room =>
      simp only [fault?_atom]
      exact faultOfMembers?_eq_none_iff.mp shown

theorem fault?_set_eq_none {members : List Atom} (shown : (set members).fault? room = none) :
    ∀ key ∈ members, (Value.atom key).fault? (room - 2) = none := by
  cases room with
  | zero => cases shown
  | succ room =>
      simp only [fault?_atom]
      exact List.findSome?_eq_none_iff.mp shown

theorem fault?_pairs_eq_none {found : List (Value × Value)}
    (shown : (pairs found).fault? room = none) :
    ∀ pair ∈ found, pair.1.fault? (room - 2) = none ∧ pair.2.fault? (room - 2) = none := by
  cases room with
  | zero => cases shown
  | succ room => exact faultOfPairs?_eq_none_iff.mp shown

/-- In a value that can be shown all parts can be shown, each with the room that
its level leaves. -/
theorem Holds.fault?_eq_none {part : Value} {level : Nat} (inside : Holds part level value)
    (shown : value.fault? room = none) : part.fault? (room - level) = none := by
  induction inside generalizing room with
  | here => exact shown
  | item listed _ ih =>
      rw [Nat.add_comm, Nat.sub_add_eq]
      exact ih (fault?_sequence_eq_none shown _ listed)
  | key listed _ ih =>
      rw [Nat.add_comm, Nat.sub_add_eq]
      exact ih (fault?_mapping_eq_none shown _ listed).1
  | member listed _ ih =>
      rw [Nat.add_comm, Nat.sub_add_eq]
      exact ih (fault?_mapping_eq_none shown _ listed).2
  | element listed _ ih =>
      rw [Nat.add_comm, Nat.sub_add_eq]
      exact ih (fault?_set_eq_none shown _ listed)
  | first listed _ ih =>
      rw [Nat.add_comm, Nat.sub_add_eq]
      exact ih (fault?_pairs_eq_none shown _ listed).1
  | second listed _ ih =>
      rw [Nat.add_comm, Nat.sub_add_eq]
      exact ih (fault?_pairs_eq_none shown _ listed).2

theorem span_le_of_fault?_eq_none (shown : value.fault? room = none) : value.span ≤ room := by
  cases value with
  | atom atom =>
      rw [fault?_atom, Atom.fault?] at shown
      split at shown
      · cases shown
      · rename_i enough
        exact Nat.not_lt.mp enough
  | _ => exact Nat.pos_of_ne_zero (ne_zero_of_fault?_eq_none shown)

theorem span_pos (value : Value) : 0 < value.span := by
  cases value with
  | atom atom => exact atom.levels_pos
  | _ => exact Nat.one_pos

theorem Unshowable.fault?_ne_none (unshowable : value.Unshowable room fatal) :
    value.fault? room ≠ none := by
  intro shown
  cases unshowable with
  | @deep part level inside beyond =>
      have enough := span_le_of_fault?_eq_none (inside.fault?_eq_none shown)
      have positive := part.span_pos
      omega
  | long inside tooLong =>
      have unshown := Number.isPrintable_eq_false_iff.mpr ⟨_, rfl, tooLong⟩
      have own := inside.fault?_eq_none shown
      rw [fault?_atom, Atom.fault?, Atom.isPrintable, unshown] at own
      split at own
      · cases own
      · cases own

/-- What keeps a part from being shown keeps the whole. -/
theorem Unshowable.of_part {inner : Value} {down : Nat}
    (unshowable : inner.Unshowable (room - down) fatal)
    (deeper : ∀ {part : Value} {level : Nat}, Holds part level inner →
      Holds part (level + down) value) : value.Unshowable room fatal := by
  cases unshowable with
  | deep inside beyond => exact .deep (deeper inside) (by omega)
  | long inside tooLong => exact .long (deeper inside) tooLong

theorem unshowable_of_atom {atom : Atom} (fault : atom.fault? room = some fatal) :
    (Value.atom atom).Unshowable room fatal := by
  unfold Atom.fault? at fault
  split at fault
  · rename_i short
    cases fault
    exact .deep .here (by simpa [span] using short)
  · split at fault
    · cases fault
    · rename_i unprintable
      cases fault
      cases atom with
      | number number =>
          obtain ⟨whole, rfl, tooLong⟩ :=
            Number.isPrintable_eq_false_iff.mp (Bool.eq_false_iff.mpr unprintable)
          exact .long .here tooLong
      | _ => exact absurd rfl unprintable

theorem unshowable_of_fault? : ∀ (room : Nat) (value : Value),
    value.fault? room = some fatal → value.Unshowable room fatal
  | 0, value, fault => by
      rw [fault?_zero] at fault
      cases fault
      exact .deep .here (by simpa using span_pos value)
  | room + 1, .atom leaf, fault => unshowable_of_atom (fault?_atom.symm.trans fault)
  | room + 1, .sequence items, fault => by
      obtain ⟨value, listed, found⟩ := exists_of_faultOfItems? fault
      exact (unshowable_of_fault? _ value found).of_part (.item listed)
  | room + 1, .mapping members, fault => by
      obtain ⟨⟨key, value⟩, listed, found | found⟩ := exists_of_faultOfMembers? fault
      · exact (unshowable_of_atom found).of_part (.key listed)
      · exact (unshowable_of_fault? _ value found).of_part (.member listed)
  | room + 1, .set members, fault => by
      obtain ⟨key, listed, found⟩ := List.exists_of_findSome?_eq_some fault
      exact (unshowable_of_atom found).of_part (.element listed)
  | room + 1, .pairs found, fault => by
      obtain ⟨⟨left, right⟩, listed, found | found⟩ := exists_of_faultOfPairs? fault
      · exact (unshowable_of_fault? _ left found).of_part (.first listed)
      · exact (unshowable_of_fault? _ right found).of_part (.second listed)
  | room + 1, .cycle isMapping, fault => by cases fault
termination_by _ value => value
decreasing_by
  all_goals
    have smaller := List.sizeOf_lt_of_mem listed
    simp only [sequence.sizeOf_spec, mapping.sizeOf_spec, pairs.sizeOf_spec,
      Prod.mk.sizeOf_spec] at smaller ⊢
    omega

theorem fault?_eq_none_iff :
    value.fault? room = none ↔ ∀ fatal, ¬ value.Unshowable room fatal := by
  constructor
  · intro shown fatal unshowable
    exact unshowable.fault?_ne_none shown
  · intro showable
    cases fault : value.fault? room with
    | none => rfl
    | some fatal => exact absurd (unshowable_of_fault? room value fault) (showable fatal)

/-- A list of keys that are texts can be shown. -/
theorem fault?_texts (keys : List Text) :
    (Value.sequence ((keys.map Atom.text).map .atom)).fault? levelLimit = none := by
  refine faultOfItems?_eq_none_iff.mpr fun value listed => ?_
  obtain ⟨key, text, rfl⟩ := List.mem_map.mp listed
  obtain ⟨key, _, rfl⟩ := List.mem_map.mp text
  rw [fault?_atom]
  rfl

/-- Lists inside each other, the innermost of them around a null. -/
def tower : (height : Nat) → Value
  | 0 => atom .null
  | height + 1 => sequence [tower height]

/-- A list takes one level, and so does the null in the innermost one. -/
theorem fault?_tower (height room : Nat) :
    (tower height).fault? room = if height < room then none else some .nestedTooDeeply := by
  induction height generalizing room with
  | zero =>
      cases room with
      | zero => exact fault?_zero
      | succ room => exact fault?_atom.trans (if_neg (Nat.not_lt.mpr room.succ_pos))
  | succ height ih =>
      cases room with
      | zero => exact fault?_zero
      | succ room =>
          simp only [Nat.add_lt_add_iff_right, ← ih]
          exact Option.or_none

example : (tower 991).fault? levelLimit = none ∧
    (tower 992).fault? levelLimit = some .nestedTooDeeply := by
  rw [fault?_tower, fault?_tower]
  decide

end Value

end Yaml

end Formulary
