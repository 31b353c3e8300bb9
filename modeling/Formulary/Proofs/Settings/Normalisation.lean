import Formulary.Proofs.Settings.Meaning
import Formulary.Proofs.Store.Loading

namespace Formulary

/-! # Loading settings

Settings that can be read are loaded as what they mean, whatever it is that reads
them.  Their file is the only thing that counts: a relative directory in them
starts where the file is, and the root directory is but a place where the file
may be found.

Where the file is, is told by the texts of the paths.  A tree of files has no
symbolic links, which would resolve a path to another place, and no permissions,
so that what is there can be looked at.
-/

namespace Config

open Yaml (Atom Document Item Value)

variable {read : Yaml.Reader} {tree : Tree} {working root : Path} {named : Option Path}
  {required : Bool} {document : Document}

/-- The configuration that is loaded when the tree of files stays as it is. -/
def loadIn (read : Yaml.Reader) (tree : Tree) (working root : Path) (named : Option Path)
    (required : Bool) : Except ConfigError Config :=
  ((loadWith read Tree.look working root named required).run tree).run

/-- Where the settings are looked for. -/
def place (working root : Path) : Option Path → Path
  | none => (root.resolve working).child fileName
  | some path => path.resolve working

/-- The settings are in a file of text that is a document. -/
structure Readable (read : Yaml.Reader) (tree : Tree) (working root : Path)
    (named : Option Path) (document : Document) : Prop where
  rooted : (working.under root).fault? = none
  nameable : ∀ path, named = some path → (working.under path).fault? = none
  file : ∃ content text, tree (place working root named) = .file content ∧
    Text.ofFile? content = some text ∧ read text = .ok document

theorem loadIn_eq :
    loadIn read tree working root named required =
      locate working root named >>= fun path => atPath read path required (tree path) := by
  rw [loadIn, loadWith]
  cases locate working root named <;> rfl

theorem locate_of_fault {fault : NameFault} (faulty : (working.under root).fault? = some fault) :
    locate working root named = .error (.fatal (.name fault)) := by
  unfold locate Fatal.checkName
  rw [faulty]
  rfl

theorem locate_of_rooted (rooted : (working.under root).fault? = none)
    (nameable : ∀ path, named = some path → (working.under path).fault? = none) :
    locate working root named = .ok (place working root named) := by
  unfold locate Fatal.checkName
  rw [rooted]
  cases named with
  | none => rfl
  | some path =>
      dsimp only
      rw [nameable path rfl]
      rfl

theorem loadIn_of_readable (readable : Readable read tree working root named document) :
    loadIn read tree working root named required =
      ofDocument (place working root named) document := by
  obtain ⟨content, text, file, decoded, found⟩ := readable.file
  rw [loadIn_eq, locate_of_rooted readable.rooted readable.nameable, Except.ok_bind, file, atPath,
    if_neg (by simp), Entry.exists?, if_pos rfl, ofEntry, Entry.content, Except.mapError,
    Except.ok_bind]
  simp only [decoded, found]

theorem place_isAbsolute : (place working root named).parent.isAbsolute = true := by
  cases named <;> rfl

/-- A root directory is looked at for its name alone where the settings are
named. -/
theorem loadIn_other_root {other : Path} (rooted : (working.under root).fault? = none) :
    loadIn read tree working other (some path) required =
      match (working.under other).fault? with
      | some fault => .error (.fatal (.name fault))
      | none => loadIn read tree working root (some path) required := by
  cases faulty : (working.under other).fault? with
  | some fault => rw [loadIn_eq, locate_of_fault faulty, Except.error_bind]
  | none =>
      simp only [loadIn_eq, locate, Fatal.checkName, faulty, rooted]

/-- Settings that can be read are loaded exactly as what they mean, and a
directory in them is absolute then.  All others are a problem that is reported,
but for a level that cannot be shown: one that is nested too deeply, or in which
an integer is too long.  Another root makes no difference to settings that are
named, if it has a name itself. -/
theorem loadIn_normalises (readable : Readable read tree working root named document)
    (textual : HasTextKeys document) :
    (∀ config, loadIn read tree working root named required = .ok config ↔
      Yields (place working root named).parent document config) ∧
    (∀ config, loadIn read tree working root named required = .ok config →
      ∀ directory ∈ config.dataDirectory, directory.isAbsolute = true) ∧
    ((∀ config, ¬ Yields (place working root named).parent document config) →
      (∃ problem, Refuses (place working root named) document problem ∧
        loadIn read tree working root named required = .error (.problem problem)) ∨
      ∃ members item fatal, Misnames (place working root named).parent document members item ∧
        (document.tree item).Unshowable Value.levelLimit fatal ∧
        loadIn read tree working root named required = .error (.fatal fatal)) ∧
    ∀ path other, named = some path →
      loadIn read tree working other named required =
        match (working.under other).fault? with
        | some fault => .error (.fatal (.name fault))
        | none => loadIn read tree working root named required := by
  have loaded_iff (config : Config) : loadIn read tree working root named required = .ok config ↔
      Yields (place working root named).parent document config := by
    rw [loadIn_of_readable readable]
    constructor
    · intro loaded
      by_contra other
      have silent : ∀ config, ¬ Yields (place working root named).parent document config := by
        intro meant yields
        rw [ofDocument_of_yields yields, Except.ok.injEq] at loaded
        exact other (loaded ▸ yields)
      obtain ⟨_, _, failed⟩ | ⟨_, _, _, _, _, failed⟩ := ofDocument_of_not_yields textual silent
      · cases loaded.symm.trans failed
      · cases loaded.symm.trans failed
    · exact ofDocument_of_yields
  refine ⟨loaded_iff, ?_, ?_, ?_⟩
  · intro config loaded directory given
    cases (loaded_iff config).mp loaded with
    | nothing => cases given
    | settings _ _ place _ => exact place.isAbsolute place_isAbsolute directory given
  · intro silent
    rw [loadIn_of_readable readable]
    exact ofDocument_of_not_yields textual silent
  · intro path other same
    subst same
    exact loadIn_other_root readable.rooted

/-! ## Two files -/

/-- A file of settings, and nothing else. -/
def treeOf (path : Path) (text : Text) : Tree := fun other =>
  if other = path then .file (Encoding.utf8.encode text) else .missing

def customText : Text := "data_dir: tables\nlog_level: info\n"

def customTree : Tree := treeOf ⟨.root, ["etc", "custom.yaml"]⟩ customText

def customDocument : Document :=
  ⟨.collection 0, [.mapping [(.text "data_dir", .atom (.text "tables")),
    (.text "log_level", .atom (.text "info"))]]⟩

theorem readable_custom :
    Readable Yaml.reader customTree ⟨.root, ["etc"]⟩ ⟨.root, ["srv"]⟩
      (some ⟨.relative, ["custom.yaml"]⟩) customDocument := by
  refine ⟨by decide, ?_, _, customText, rfl, by decide +kernel, ?_⟩
  · intro path same
    cases same
    decide
  · rw [← Except.toOption_eq_some_iff]
    decide +kernel

theorem hasTextKeys_custom : HasTextKeys customDocument := by
  intro members mapping member listed
  cases mapping
  simp only [List.mem_cons, List.not_mem_nil, or_false] at listed
  rcases listed with rfl | rfl
  · exact ⟨_, rfl⟩
  · exact ⟨_, rfl⟩

theorem yields_custom :
    Yields ⟨.root, ["etc"]⟩ customDocument ⟨some ⟨.root, ["etc", "tables"]⟩, .info⟩ := by
  refine .settings rfl ?_ (.relative ⟨.scalar 't', by decide, rfl⟩ rfl) (.named ?_)
  · intro member listed
    simp only [List.mem_cons, List.not_mem_nil, or_false] at listed
    rcases listed with rfl | rfl
    · exact .inl rfl
    · exact .inr rfl
  · decide +kernel

theorem loadIn_normalises_custom :
    Readable Yaml.reader customTree ⟨.root, ["etc"]⟩ ⟨.root, ["srv"]⟩
      (some ⟨.relative, ["custom.yaml"]⟩) customDocument ∧
    HasTextKeys customDocument ∧
    loadIn Yaml.reader customTree ⟨.root, ["etc"]⟩ ⟨.root, ["srv"]⟩
      (some ⟨.relative, ["custom.yaml"]⟩) true =
        .ok ⟨some ⟨.root, ["etc", "tables"]⟩, .info⟩ :=
  ⟨readable_custom, hasTextKeys_custom,
    ((loadIn_normalises readable_custom hasTextKeys_custom).1 _).mpr yields_custom⟩

/-- An integer of more than four thousand digits, in hexadecimal. -/
def toweringText : Text := "log_level: 0x" ++ List.replicate 3600 (CodePoint.scalar 'F') ++ "\n"

def toweringTree : Tree := treeOf ⟨.root, ["secexpr.yaml"]⟩ toweringText

def towering : Item := .atom (.number (.int (16 ^ 3600 - 1)))

def toweringMembers : List (Atom × Item) := [(.text "log_level", towering)]

def toweringDocument : Document := ⟨.collection 0, [.mapping toweringMembers]⟩

set_option maxRecDepth 4000 in
theorem read_towering : Yaml.reader toweringText = .ok toweringDocument := by
  rw [← Except.toOption_eq_some_iff]
  decide +kernel

set_option maxRecDepth 4000 in
theorem ofFile?_towering :
    Text.ofFile? (Encoding.utf8.encode toweringText) = some toweringText := by
  decide +kernel

theorem readable_towering :
    Readable Yaml.reader toweringTree ⟨.root, []⟩ .here none toweringDocument := by
  refine ⟨by decide, ?_, _, toweringText, rfl, ofFile?_towering, read_towering⟩
  intro path same
  cases same

theorem hasTextKeys_towering : HasTextKeys toweringDocument := by
  intro members mapping member listed
  cases mapping
  cases List.mem_singleton.mp listed
  exact ⟨_, rfl⟩

theorem misnames_towering :
    Misnames (place ⟨.root, []⟩ .here none).parent toweringDocument toweringMembers towering := by
  refine ⟨rfl, ?_, ⟨none, .absent⟩, rfl, ?_⟩
  · intro member listed
    cases List.mem_singleton.mp listed
    exact .inr rfl
  · intro level names
    cases names

theorem fault?_towering :
    (toweringDocument.tree towering).fault? Value.levelLimit = some .unprintable := by
  decide +kernel

/-- Settings that can be read, but say nothing, are no problem that is reported:
their level is too long an integer. -/
theorem towering_unreported :
    Readable Yaml.reader toweringTree ⟨.root, []⟩ .here none toweringDocument ∧
    HasTextKeys toweringDocument ∧
    (∀ config, ¬ Yields (place ⟨.root, []⟩ .here none).parent toweringDocument config) ∧
    loadIn Yaml.reader toweringTree ⟨.root, []⟩ .here none false =
      .error (.fatal .unprintable) ∧
    ¬ ∃ problem, loadIn Yaml.reader toweringTree ⟨.root, []⟩ .here none false =
      .error (.problem problem) := by
  have failed : loadIn Yaml.reader toweringTree ⟨.root, []⟩ .here none false =
      .error (.fatal .unprintable) := by
    rw [loadIn_of_readable readable_towering, ofDocument_of_misnames misnames_towering, report,
      fault?_towering]
  refine ⟨readable_towering, hasTextKeys_towering, ?_, failed, ?_⟩
  · intro config yields
    rw [loadIn_of_readable readable_towering, ofDocument_of_yields yields] at failed
    cases failed
  · intro reported
    obtain ⟨problem, same⟩ := reported
    cases failed.symm.trans same

end Config

end Formulary
