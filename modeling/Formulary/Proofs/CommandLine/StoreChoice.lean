import Formulary.CommandLine.Program
import Formulary.Proofs.Store.Loading

namespace Formulary

/-! # The choice of the store

A run takes the store from the directory that is named to it.  What is wrong with
the directory or a table is reported and ends the run with status two, with the
exception of names that no file system knows, files that are no text, integers
of too many digits, and containers that are nested too deeply.

This is said of trees of files and directories that may all be looked at.  They
have no symbolic links, so that the path of a directory is resolved by its text
alone, and no permissions, so that nothing that is there is withheld.
-/

variable {tree : Tree} {directory : Path}

theorem Entry.content_eq_ok_iff {path : Path} {entry : Entry} {content : List UInt8} :
    entry.content path = .ok content ↔ entry = .file content := by
  cases entry <;> simp [Entry.content]

namespace TableName

variable {name : TableName} {fatal : Fatal}

/-- Why a table ends the program: its file is no text, or the text is no JSON
for its size. -/
inductive Escapes (tree : Tree) (directory : Path) (name : TableName) : Fatal → Prop where
  | undecodable {content : List UInt8} (file : tree (directory.child name.file) = .file content)
      (noText : Text.ofFile? content = none) : Escapes tree directory name .undecodable
  | longNumeral {content : List UInt8} {text : Text} {digits : Nat}
      (file : tree (directory.child name.file) = .file content)
      (decoded : Text.ofFile? content = some text)
      (long : Json.read .lenient text = .error (.longNumeral digits)) :
      Escapes tree directory name (.longNumeral digits)
  | nestedTooDeeply {content : List UInt8} {text : Text}
      (file : tree (directory.child name.file) = .file content)
      (decoded : Text.ofFile? content = some text)
      (deep : Json.read .lenient text = .error .nestedTooDeeply) :
      Escapes tree directory name .nestedTooDeeply

def Sound (tree : Tree) (directory : Path) (name : TableName) : Prop :=
  ∃ table, name.Holds tree directory table ∧ name.columns.Fits table

theorem load_of_escapes (escapes : name.Escapes tree directory fatal) :
    name.load tree directory = .error (.fatal fatal) := by
  cases escapes with
  | undecodable file noText =>
      simp only [load, loadWith, Store.tableOf, file, Entry.content, Except.mapError,
        Except.ok_bind, noText]
  | longNumeral file decoded long =>
      simp only [load, loadWith_of_text file decoded, Store.decodeTable, long, Except.error_bind]
  | nestedTooDeeply file decoded deep =>
      simp only [load, loadWith_of_text file decoded, Store.decodeTable, deep, Except.error_bind]

theorem load_cases (tree : Tree) (directory : Path) (name : TableName) :
    (∃ table, name.Holds tree directory table) ∨
      (∃ problem, name.load tree directory = .error (.problem problem)) ∨
      ∃ fatal, name.Escapes tree directory fatal := by
  cases opened : (tree (directory.child name.file)).content (directory.child name.file) with
  | error error =>
      refine .inr (.inl ⟨.unreadable (directory.child name.file) error, ?_⟩)
      simp only [load, loadWith, Store.tableOf, opened, Except.mapError, Except.error_bind]
  | ok content =>
      have file := Entry.content_eq_ok_iff.mp opened
      cases decoded : Text.ofFile? content with
      | none => exact .inr (.inr ⟨_, .undecodable file decoded⟩)
      | some text =>
          cases read : Json.read .lenient text with
          | ok table => exact .inl ⟨table, content, text, file, decoded, read⟩
          | error reason =>
              cases reason with
              | flaw kind place =>
                  refine .inr (.inl ⟨.notJson (directory.child name.file) kind
                    (Json.placeText text place), ?_⟩)
                  simp only [load, loadWith_of_text file decoded, Store.decodeTable, read,
                    Except.error_bind]
              | longNumeral digits => exact .inr (.inr ⟨_, .longNumeral file decoded read⟩)
              | nestedTooDeeply => exact .inr (.inr ⟨_, .nestedTooDeeply file decoded read⟩)
              | constantRefused => exact absurd read (Json.read_unrefused text)

theorem holds_of_loads (loads : Loads tree directory name) :
    ∃ table, name.Holds tree directory table := by
  obtain ⟨rows, loaded⟩ := loads
  rcases load_cases tree directory name with holds | ⟨problem, failed⟩ | ⟨fatal, escapes⟩
  · exact holds
  · cases loaded.symm.trans failed
  · cases loaded.symm.trans (load_of_escapes escapes)

theorem escapes_of_load (stopped : name.load tree directory = .error (.fatal fatal)) :
    name.Escapes tree directory fatal := by
  rcases load_cases tree directory name with ⟨table, holds⟩ | ⟨problem, failed⟩ | ⟨other, escapes⟩
  · rcases loadWith_verdict_of_holds .rowByRow holds with ⟨_, rows, loaded⟩ | ⟨flaw, _, failed⟩
    · cases loaded.symm.trans stopped
    · cases failed.symm.trans stopped
  · cases failed.symm.trans stopped
  · cases (load_of_escapes escapes).symm.trans stopped
    exact escapes

theorem loads_iff_sound : Loads tree directory name ↔ name.Sound tree directory := by
  constructor
  · intro loads
    obtain ⟨table, holds⟩ := holds_of_loads loads
    exact ⟨table, holds, (loadsWith_iff_fits .rowByRow holds).mp loads⟩
  · rintro ⟨table, holds, fits⟩
    exact (loadsWith_iff_fits .rowByRow holds).mpr fits

end TableName

namespace Store

/-- Why a directory ends the program: nothing can be found out about it, or one
of its tables does, and the tables before it are sound. -/
inductive Escapes (tree : Tree) (directory : Path) : Fatal → Prop where
  | nameTooLong (long : tree directory = .nameTooLong) :
      Escapes tree directory (.file (.nameTooLong directory))
  | table {place : Nat} {name : TableName} {fatal : Fatal}
      (isDirectory : tree directory = .directory)
      (first : FirstAt (TableName.Sound tree directory) TableName.all place name)
      (escapes : name.Escapes tree directory fatal) : Escapes tree directory fatal

theorem load_of_no_directory (other : tree directory ≠ .directory) :
    load tree directory = if tree directory = .nameTooLong then
        .error (.fatal (.file (.nameTooLong directory)))
      else .error (.problem (.noDirectory directory)) := by
  simp only [load, loadFrom, loadFromWith, Tree.outcome_bind, Tree.outcome_look, Except.ok_bind]
  cases found : tree directory with
  | directory => exact absurd found other
  | _ => rfl

theorem load_eq_fatal_iff {fatal : Fatal} :
    load tree directory = .error (.fatal fatal) ↔ Escapes tree directory fatal := by
  constructor
  · intro stopped
    by_cases isDirectory : tree directory = .directory
    · rcases load_verdict isDirectory with
        ⟨_, store, loaded⟩ | ⟨place, name, error, first, failed, same⟩
      · cases loaded.symm.trans stopped
      · cases same.symm.trans stopped
        exact .table isDirectory (first.imp fun _ => TableName.loads_iff_sound)
          (TableName.escapes_of_load failed)
    · rw [load_of_no_directory isDirectory] at stopped
      split at stopped
      · rename_i long
        cases stopped
        exact .nameTooLong long
      · cases stopped
  · intro escapes
    cases escapes with
    | nameTooLong long =>
        rw [load_of_no_directory (by simp [long]), if_pos long]
    | @table place name _ isDirectory first escapes =>
        have unloaded := first.imp fun _ => TableName.loads_iff_sound.symm
        rcases load_verdict isDirectory with ⟨all, _⟩ | ⟨_, other, error, blamed, failed, same⟩
        · exact absurd (all name) unloaded.bad
        · obtain rfl := unloaded.unique blamed
          cases failed.symm.trans (TableName.load_of_escapes escapes)
          exact same

end Store

namespace CommandLine

/-- Why the directory that a path names ends the program without a report. -/
inductive Unreported (tree : Tree) (working path : Path) : Fatal → Prop where
  | noName {fault : NameFault} (faulty : (working.under path).fault? = some fault) :
      Unreported tree working path (.name fault)
  | directory {fatal : Fatal} (nameable : (working.under path).fault? = none)
      (escapes : Store.Escapes tree (path.resolve working) fatal) :
      Unreported tree working path fatal

variable {working path : Path} {given : Given} {config : Config} {input : ReaderM Tree Text}

theorem outcome_selectStore
    (named : (given.dataDirectory.value? <|> config.dataDirectory) = some path) :
    tree.outcome (selectStore ⟨working, Tree.look, input⟩ given config) =
      match (working.under path).fault? with
      | some fault => .error (.fatal (.name fault))
      | none =>
        match Store.load tree (path.resolve working) with
        | .ok store => .ok ((path.resolve working).text, store)
        | .error (.fatal fatal) => .error (.fatal fatal)
        | .error (.problem problem) =>
          .error (.outcome ⟨2, [], [.problem (.store problem)]⟩) := by
  simp only [selectStore, named, Tree.outcome_bind, checkName, Tree.outcome_mk, Tree.outcome_lift]
  unfold Fatal.checkName
  cases (working.under path).fault? with
  | some fault => rfl
  | none =>
      simp only [Except.mapError, Except.ok_bind, Store.load]
      cases tree.outcome (Store.loadFrom Tree.look (path.resolve working)) with
      | ok store => rfl
      | error error => cases error <;> rfl

/-- A run stops at the tables just if they are unreported, and else has its store
or ends with status two and the report of a problem on standard error. -/
theorem selectStore_stops_iff
    (named : (given.dataDirectory.value? <|> config.dataDirectory) = some path) :
    (∀ fatal, tree.outcome (selectStore ⟨working, Tree.look, input⟩ given config) =
        .error (.fatal fatal) ↔ Unreported tree working path fatal) ∧
    ((∀ fatal, ¬ Unreported tree working path fatal) →
      (∃ store, tree.outcome (selectStore ⟨working, Tree.look, input⟩ given config) =
        .ok ((path.resolve working).text, store)) ∨
      ∃ problem report, tree.outcome (selectStore ⟨working, Tree.look, input⟩ given config) =
        .error (.outcome report) ∧ report = ⟨2, [], [.problem (.store problem)]⟩ ∧
        report.errorText = "Configuration error: " ++ problem.message ++ "\n") := by
  rw [outcome_selectStore named]
  cases fault : (working.under path).fault? with
  | some found =>
      have unreported : Unreported tree working path (.name found) := .noName fault
      refine ⟨fun fatal => ⟨fun stopped => ?_, fun reason => ?_⟩,
        fun none => absurd unreported (none _)⟩
      · cases stopped
        exact unreported
      · cases reason with
        | noName faulty => cases fault.symm.trans faulty; rfl
        | directory nameable _ => cases fault.symm.trans nameable
  | none =>
      have escapes (fatal : Fatal) : Unreported tree working path fatal ↔
          Store.load tree (path.resolve working) = .error (.fatal fatal) := by
        rw [Store.load_eq_fatal_iff]
        refine ⟨fun reason => ?_, .directory fault⟩
        cases reason with
        | noName faulty => cases fault.symm.trans faulty
        | directory _ escapes => exact escapes
      simp only [escapes]
      cases loaded : Store.load tree (path.resolve working) with
      | ok store => simp
      | error error =>
          cases error with
          | fatal fatal => simp
          | problem problem =>
              refine ⟨by simp, fun _ => .inr ⟨problem, _, rfl, rfl, ?_⟩⟩
              exact List.append_nil _

/-- One bracket more than can be open at a time. -/
def steepTexts : TableName → Text
  | .securities | .attributes => "[]"
  | .facts => List.replicate (Json.nestingLimit + 1) (.scalar '[')

theorem ofFile?_steepTexts (name : TableName) :
    Text.ofFile? (Encoding.utf8.encode (steepTexts name)) = some (steepTexts name) := by
  cases name <;> decide +kernel

theorem sound_steep {name : TableName} (before : name ≠ .facts) :
    name.Sound (Tree.ofTexts steepTexts) ⟨.root, []⟩ := by
  have empty : steepTexts name = "[]" := by
    cases name with
    | facts => exact absurd rfl before
    | _ => rfl
  refine ⟨.array [], ⟨_, _, Tree.ofTexts_child steepTexts name, ofFile?_steepTexts name, ?_⟩,
    [], rfl, nofun⟩
  rw [empty]
  rfl

theorem read_steep : Json.read .lenient (steepTexts .facts) = .error .nestedTooDeeply := by
  rw [← Except.reason?_eq_some_iff]
  decide +kernel

theorem unsound_steep : ¬ TableName.facts.Sound (Tree.ofTexts steepTexts) ⟨.root, []⟩ := by
  rintro ⟨table, ⟨content, text, file, decoded, read⟩, _⟩
  cases (Tree.ofTexts_child steepTexts .facts).symm.trans file
  cases (ofFile?_steepTexts .facts).symm.trans decoded
  cases read_steep.symm.trans read

theorem unreported_steep :
    Unreported (Tree.ofTexts steepTexts) ⟨.root, []⟩ ⟨.root, []⟩ .nestedTooDeeply := by
  have first : FirstAt (TableName.Sound (Tree.ofTexts steepTexts) ⟨.root, []⟩)
      TableName.all 2 .facts :=
    ((FirstAt.head unsound_steep).cons (sound_steep (by decide))).cons (sound_steep (by decide))
  have deep : TableName.facts.Escapes (Tree.ofTexts steepTexts) ⟨.root, []⟩ .nestedTooDeeply :=
    .nestedTooDeeply (Tree.ofTexts_child steepTexts .facts) (ofFile?_steepTexts .facts) read_steep
  exact .directory rfl (.table rfl first deep)

theorem selectStore_stops_iff_steep :
    ((Setting.value (⟨.root, []⟩ : Path)).value? <|> Config.default.dataDirectory) =
      some ⟨.root, []⟩ ∧
    Tree.outcome (Tree.ofTexts steepTexts) (selectStore ⟨⟨.root, []⟩, Tree.look, pure []⟩
      { Given.start with dataDirectory := .value ⟨.root, []⟩ } .default) =
        .error (.fatal .nestedTooDeeply) :=
  ⟨rfl, ((selectStore_stops_iff rfl).1 .nestedTooDeeply).mpr unreported_steep⟩

/-- A byte that starts no character, between brackets. -/
def spoiltTree : Tree := fun path =>
  if path = ⟨.root, ["home", "tables", "securities.json"]⟩ then .file [0x5B, 0xFF, 0x5D]
  else if path = ⟨.root, ["home", "tables"]⟩ then .directory
  else .missing

/-- A table that is no text ends the program, and is no problem of the store. -/
theorem program_spoilt :
    ((program ⟨⟨.root, ["home"]⟩, Tree.look, pure []⟩
      ["run", "-e", "multiply", "-d", "tables"]).run spoiltTree).run = .error .undecodable ∧
    ¬ ((∃ store, Store.load spoiltTree ⟨.root, ["home", "tables"]⟩ = .ok store) ∨
      ∃ problem,
        Store.load spoiltTree ⟨.root, ["home", "tables"]⟩ = .error (.problem problem)) := by
  constructor
  · rw [← Except.reason?_eq_some_iff]
    decide +kernel
  · have stopped : Store.load spoiltTree ⟨.root, ["home", "tables"]⟩ =
        .error (.fatal .undecodable) := by
      have first : FirstAt (TableName.Sound spoiltTree ⟨.root, ["home", "tables"]⟩)
          TableName.all 0 .securities := by
        refine .head ?_
        rintro ⟨table, ⟨content, text, file, decoded, _⟩, _⟩
        cases file
        cases decoded
      exact Store.load_eq_fatal_iff.mpr
        (.table rfl first (.undecodable rfl rfl))
    rw [stopped]
    rintro (⟨store, same⟩ | ⟨problem, same⟩) <;> cases same

end CommandLine

end Formulary
