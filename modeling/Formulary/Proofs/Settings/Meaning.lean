import Mathlib.Data.Set.List
import Formulary.Proofs.Outcome
import Formulary.Proofs.Settings.LevelNames
import Formulary.Proofs.Settings.Reporting

namespace Formulary

/-! # The meaning of settings

Settings mean something if they are nothing at all, or a mapping of a directory
and a level.  A directory may be absent or null, but a level may only be absent.
All other settings have a problem, which is the first of their form, their keys,
their directory and their level to be wrong.
-/

namespace Config

open Text (isBlank AtMost)
open Yaml (Atom Document Item Value)

variable {path base : Path} {document : Document} {members : List (Atom × Item)} {item : Item}
  {found : Option Item} {directory : Option Path} {level : LogLevel} {config : Config}

/-! ## Values -/

/-- The directory that a value stands for, where relative ones start at a base. -/
inductive NamesDirectory (base : Path) : Option Item → Option Path → Prop
  | absent : NamesDirectory base none none
  | null : NamesDirectory base (some (.atom .null)) none
  | absolute {text : Text} (visible : ∃ point ∈ text, isBlank point = false)
      (absolute : (Path.ofText text).isAbsolute = true) :
      NamesDirectory base (some (.atom (.text text))) (some (.ofText text))
  | relative {text : Text} (visible : ∃ point ∈ text, isBlank point = false)
      (relative : (Path.ofText text).isAbsolute = false) :
      NamesDirectory base (some (.atom (.text text)))
        (some ⟨base.anchor, base.parts ++ (Path.ofText text).parts⟩)

inductive NamesLevel : Option Item → LogLevel → Prop
  | absent : NamesLevel none .warning
  | named {text : Text} {level : LogLevel} (capitals : Text.upper text = level.name) :
      NamesLevel (some (.atom (.text text))) level

theorem isAllBlank_eq_false_iff {text : Text} :
    Text.isAllBlank text = false ↔ ∃ point ∈ text, isBlank point = false := by
  simp [Text.isAllBlank]

theorem readDataDirectory_eq_ok_iff :
    readDataDirectory base found = .ok directory ↔ NamesDirectory base found directory := by
  constructor
  · intro read
    unfold readDataDirectory at read
    split at read
    · cases read
      exact .absent
    · cases read
      exact .null
    · split at read
      · cases read
      · rename_i visible
        have visible := isAllBlank_eq_false_iff.mp (Bool.eq_false_iff.mpr visible)
        cases read
        unfold Path.under
        split
        · exact .absolute visible ‹_›
        · exact .relative visible (Bool.eq_false_iff.mpr ‹_›)
    · cases read
  · intro names
    cases names with
    | absent => rfl
    | null => rfl
    | absolute visible absolute =>
        rw [readDataDirectory, isAllBlank_eq_false_iff.mpr visible, Path.under, if_pos absolute]
        rfl
    | relative visible relative =>
        rw [readDataDirectory, isAllBlank_eq_false_iff.mpr visible, Path.under,
          if_neg (Bool.eq_false_iff.mp relative)]
        rfl

theorem readDataDirectory_of_nameless
    (nameless : ∀ directory, ¬ NamesDirectory base found directory) :
    readDataDirectory base found = .error (.problem .dataDirectory) := by
  cases read : readDataDirectory base found with
  | ok directory => exact absurd (readDataDirectory_eq_ok_iff.mp read) (nameless directory)
  | error error =>
      unfold readDataDirectory at read
      split at read
      · cases read
      · cases read
      · split at read
        · exact read.symm
        · cases read
      · exact read.symm

theorem NamesDirectory.isAbsolute (names : NamesDirectory base found directory)
    (absolute : base.isAbsolute = true) :
    ∀ path ∈ directory, path.isAbsolute = true := by
  intro path same
  cases names with
  | absent => cases same
  | null => cases same
  | absolute _ own =>
      cases same
      exact own
  | relative _ _ =>
      cases same
      exact absolute

theorem level?_eq_some_iff : level? item = some level ↔ NamesLevel (some item) level := by
  constructor
  · intro read
    unfold level? at read
    split at read
    · exact .named (LogLevel.ofText?_eq_some_iff.mp read)
    · cases read
  · intro names
    cases names with
    | named capitals => exact LogLevel.ofText?_eq_some_iff.mpr capitals

theorem readLogLevel_of_names (names : NamesLevel found level) :
    readLogLevel document found = .ok level := by
  cases found with
  | none =>
      cases names
      rfl
  | some item => rw [readLogLevel, level?_eq_some_iff.mpr names]

theorem readLogLevel_of_nameless (nameless : ∀ level, ¬ NamesLevel (some item) level) :
    readLogLevel document (some item) =
      .error (report (document.tree item) (.logLevel (document.tree item))) := by
  cases read : level? item with
  | some level => exact absurd (level?_eq_some_iff.mp read) (nameless level)
  | none => rw [readLogLevel, read]

/-! ## Keys -/

/-- The keys at the top of a document, if it is a mapping, are texts. -/
def HasTextKeys (document : Document) : Prop :=
  ∀ members, document.members? document.root = some members →
    ∀ member ∈ members, ∃ key, member.1 = .text key

def OnlyKnown (members : List (Atom × Item)) : Prop :=
  ∀ member ∈ members, member.1 = .text dataDirectoryKey ∨ member.1 = .text logLevelKey

/-- The unknown keys of a mapping, in order. -/
structure ListsUnknown (members : List (Atom × Item)) (keys : List Text) : Prop where
  listed : ∀ key, key ∈ keys ↔
    (∃ item, (.text key, item) ∈ members) ∧ key ≠ dataDirectoryKey ∧ key ≠ logLevelKey
  ascending : keys.Pairwise AtMost

theorem isKnown_text (key : Text) :
    isKnown (.text key) = true ↔ key = dataDirectoryKey ∨ key = logLevelKey := by
  simp [isKnown, Atom.same]

theorem checkKeys_of_known (known : OnlyKnown members) :
    checkKeys (members.map Prod.fst) = .ok () := by
  have none : (members.map Prod.fst).filter (fun key => !isKnown key) = [] := by
    rw [List.filter_eq_nil_iff]
    intro key listed
    obtain ⟨member, inside, rfl⟩ := List.mem_map.mp listed
    rcases known member inside with same | same
    · simp [same, isKnown_text]
    · simp [same, isKnown_text]
  rw [checkKeys, none]

theorem exists_texts (textual : ∀ member ∈ members, ∃ key, member.1 = .text key) :
    ∃ keys : List Text, members.map Prod.fst = keys.map .text := by
  have inRange : members.map Prod.fst ∈ Set.range (List.map Atom.text) := by
    rw [Set.range_list_map]
    intro key listed
    obtain ⟨member, inside, rfl⟩ := List.mem_map.mp listed
    obtain ⟨text, same⟩ := textual member inside
    exact ⟨text, same.symm⟩
  obtain ⟨keys, same⟩ := inRange
  exact ⟨keys, same.symm⟩

theorem checkKeys_of_unknown (textual : ∀ member ∈ members, ∃ key, member.1 = .text key)
    (unknown : ¬ OnlyKnown members) :
    ∃ keys, ListsUnknown members keys ∧
      checkKeys (members.map Prod.fst) = .error (.problem (.unknownKeys (keys.map .text))) := by
  obtain ⟨texts, same⟩ := exists_texts textual
  let strange := texts.filter fun key => !isKnown (.text key)
  have filtered : (members.map Prod.fst).filter (fun key => !isKnown key) = strange.map .text := by
    rw [same, List.filter_map]
    rfl
  have listed (key : Text) : key ∈ strange ↔
      (∃ item, (.text key, item) ∈ members) ∧ key ≠ dataDirectoryKey ∧ key ≠ logLevelKey := by
    have inside : key ∈ texts ↔ ∃ item, (.text key, item) ∈ members := by
      rw [← List.mem_map_of_injective (f := Atom.text) (fun _ _ => Atom.text.inj), ← same]
      simp
    rw [List.mem_filter, inside, ← not_or, ← isKnown_text]
    simp
  have some : strange ≠ [] := by
    intro none
    refine unknown fun member inside => ?_
    obtain ⟨key, own⟩ := textual member inside
    have absent : key ∉ strange := by simp [none]
    rw [listed] at absent
    have present : ∃ item, (Atom.text key, item) ∈ members := ⟨member.2, own ▸ inside⟩
    rw [own, Atom.text.injEq, Atom.text.injEq]
    by_contra neither
    exact absent ⟨present, not_or.mp neither⟩
  refine ⟨strange.insertionSort AtMost, ⟨?_, List.pairwise_insertionSort ..⟩, ?_⟩
  · intro key
    rw [List.mem_insertionSort, listed]
  · obtain ⟨first, rest, whole⟩ := List.exists_cons_of_ne_nil some
    have order := Atom.sorted?_texts strange
    rw [whole, List.map_cons] at filtered order
    rw [checkKeys, filtered]
    simp only [order, whole]
    rw [report, Value.fault?_texts]

/-! ## Documents -/

/-- The configuration that a document comes to, found in the directory `base`. -/
inductive Yields (base : Path) (document : Document) : Config → Prop
  | nothing (null : document.root = .atom .null) : Yields base document ⟨none, .warning⟩
  | settings {members : List (Atom × Item)} {directory : Option Path} {level : LogLevel}
      (mapping : document.members? document.root = some members) (known : OnlyKnown members)
      (place : NamesDirectory base (Atom.lookup? (.text dataDirectoryKey) members) directory)
      (name : NamesLevel (Atom.lookup? (.text logLevelKey) members) level) :
      Yields base document ⟨directory, level⟩

/-- Everything about a mapping is right but its level. -/
structure Misnames (base : Path) (document : Document) (members : List (Atom × Item))
    (item : Item) : Prop where
  mapping : document.members? document.root = some members
  known : OnlyKnown members
  place : ∃ directory, NamesDirectory base (Atom.lookup? (.text dataDirectoryKey) members) directory
  given : Atom.lookup? (.text logLevelKey) members = some item
  nameless : ∀ level, ¬ NamesLevel (some item) level

/-- The problem of a document that does not come to a configuration. -/
inductive Refuses (path : Path) (document : Document) : ConfigProblem → Prop
  | notMapping (value : document.root ≠ .atom .null)
      (other : document.members? document.root = none) : Refuses path document (.notMapping path)
  | unknownKeys {members : List (Atom × Item)} {keys : List Text}
      (mapping : document.members? document.root = some members)
      (unknown : ¬ OnlyKnown members) (lists : ListsUnknown members keys) :
      Refuses path document (.unknownKeys (keys.map .text))
  | dataDirectory {members : List (Atom × Item)}
      (mapping : document.members? document.root = some members) (known : OnlyKnown members)
      (nameless : ∀ directory, ¬ NamesDirectory path.parent
        (Atom.lookup? (.text dataDirectoryKey) members) directory) :
      Refuses path document .dataDirectory
  | logLevel {members : List (Atom × Item)} {item : Item}
      (misnames : Misnames path.parent document members item)
      (showable : ∀ fatal, ¬ (document.tree item).Unshowable Value.levelLimit fatal) :
      Refuses path document (.logLevel (document.tree item))

theorem ofDocument_of_mapping (mapping : document.members? document.root = some members) :
    ofDocument path document = (do
      checkKeys (members.map Prod.fst)
      let directory ←
        readDataDirectory path.parent (Atom.lookup? (.text dataDirectoryKey) members)
      let level ← readLogLevel document (Atom.lookup? (.text logLevelKey) members)
      return ⟨directory, level⟩) := by
  have value : document.root ≠ .atom .null := by
    intro null
    rw [null] at mapping
    cases mapping
  rw [ofDocument, if_neg value, mapping]

theorem ofDocument_of_yields (yields : Yields path.parent document config) :
    ofDocument path document = .ok config := by
  cases yields with
  | nothing null => rw [ofDocument, if_pos null, default]
  | settings mapping known place name =>
      rw [ofDocument_of_mapping mapping, checkKeys_of_known known, Except.ok_bind,
        readDataDirectory_eq_ok_iff.mpr place, Except.ok_bind, readLogLevel_of_names name]
      rfl

theorem ofDocument_of_misnames (misnames : Misnames path.parent document members item) :
    ofDocument path document =
      .error (report (document.tree item) (.logLevel (document.tree item))) := by
  obtain ⟨directory, names⟩ := misnames.place
  rw [ofDocument_of_mapping misnames.mapping, checkKeys_of_known misnames.known, Except.ok_bind,
    readDataDirectory_eq_ok_iff.mpr names, Except.ok_bind, misnames.given,
    readLogLevel_of_nameless misnames.nameless, Except.error_bind]

/-- A level that is none is reported if it can be shown, and else ends the program. -/
theorem ofDocument_of_misnames_cases (misnames : Misnames path.parent document members item) :
    (∃ problem, Refuses path document problem ∧
      ofDocument path document = .error (.problem problem)) ∨
    ∃ fatal, (document.tree item).Unshowable Value.levelLimit fatal ∧
      ofDocument path document = .error (.fatal fatal) := by
  rw [ofDocument_of_misnames misnames, report]
  cases fault : (document.tree item).fault? Value.levelLimit with
  | none => exact .inl ⟨_, .logLevel misnames (Value.fault?_eq_none_iff.mp fault), rfl⟩
  | some fatal => exact .inr ⟨fatal, Value.unshowable_of_fault? _ _ fault, rfl⟩

/-- A document that says nothing is refused, unless its level cannot be shown. -/
theorem ofDocument_of_not_yields (textual : HasTextKeys document)
    (silent : ∀ config, ¬ Yields path.parent document config) :
    (∃ problem, Refuses path document problem ∧
      ofDocument path document = .error (.problem problem)) ∨
    ∃ members item fatal, Misnames path.parent document members item ∧
      (document.tree item).Unshowable Value.levelLimit fatal ∧
      ofDocument path document = .error (.fatal fatal) := by
  have value : document.root ≠ .atom .null := fun null => silent _ (.nothing null)
  cases mapping : document.members? document.root with
  | none =>
      refine .inl ⟨_, .notMapping value mapping, ?_⟩
      rw [ofDocument, if_neg value, mapping]
  | some members =>
      by_cases known : OnlyKnown members
      · by_cases named : ∃ directory, NamesDirectory path.parent
            (Atom.lookup? (.text dataDirectoryKey) members) directory
        · obtain ⟨directory, names⟩ := named
          cases found : Atom.lookup? (.text logLevelKey) members with
          | none =>
              exact absurd (.settings mapping known names (found.symm ▸ NamesLevel.absent))
                (silent _)
          | some item =>
              have nameless (level : LogLevel) : ¬ NamesLevel (some item) level := fun spelt =>
                silent _ (.settings mapping known names (found.symm ▸ spelt))
              have misnames : Misnames path.parent document members item :=
                ⟨mapping, known, ⟨directory, names⟩, found, nameless⟩
              rcases ofDocument_of_misnames_cases misnames with reported | ⟨fatal, reason, stopped⟩
              · exact .inl reported
              · exact .inr ⟨members, item, fatal, misnames, reason, stopped⟩
        · have nameless := not_exists.mp named
          refine .inl ⟨_, .dataDirectory mapping known nameless, ?_⟩
          rw [ofDocument_of_mapping mapping, checkKeys_of_known known, Except.ok_bind,
            readDataDirectory_of_nameless nameless, Except.error_bind]
      · obtain ⟨keys, lists, refused⟩ := checkKeys_of_unknown (textual members mapping) known
        refine .inl ⟨_, .unknownKeys mapping known lists, ?_⟩
        rw [ofDocument_of_mapping mapping, refused, Except.error_bind]

end Config

end Formulary
