import Formulary.Proofs.Json.LineRoundTrip
import Formulary.Proofs.Json.Strictness
import Formulary.Proofs.Store.SchemaOrder

namespace Formulary

/-! # Loading tables

A directory is loaded table by table, and the first table that does not load
decides the error.  A table loads if its file is text, the text is JSON, and the
rows fit the columns.  Any validator that keeps to the order of the schema may
find the flaw of a table.
-/

namespace Path

theorem name_child (directory : Path) (name : Text) : (directory.child name).name = name := by
  simp [child, Path.name]

end Path

/-- What is under each path. -/
abbrev Tree := Path → Entry

namespace Tree

def look (path : Path) : ReaderM Tree Entry := do
  return (← read) path

/-- Tables in the root directory, and nothing else. -/
def ofTexts (texts : TableName → Text) : Tree := fun path =>
  match TableName.all.find? fun name => path = Path.child ⟨.root, []⟩ name.file with
  | some name => .file (Encoding.utf8.encode (texts name))
  | none => if path = ⟨.root, []⟩ then .directory else .missing

theorem ofTexts_child (texts : TableName → Text) (name : TableName) :
    ofTexts texts (Path.child ⟨.root, []⟩ name.file) =
      .file (Encoding.utf8.encode (texts name)) := by
  cases name <;> rfl

variable {ε δ α β : Type}

/-- What comes out when files are looked at in a tree that stays as it is. -/
def outcome (tree : Tree) (action : ExceptT ε (ReaderM Tree) α) : Except ε α :=
  (action.run.run tree).run

variable {tree : Tree}

theorem outcome_bind (action : ExceptT ε (ReaderM Tree) α)
    (next : α → ExceptT ε (ReaderM Tree) β) :
    tree.outcome (action >>= next) =
      tree.outcome action >>= fun value => tree.outcome (next value) := by
  simp only [outcome, ExceptT.run_bind, ReaderT.run_bind]
  generalize ReaderT.run action.run tree = ran
  cases ran <;> rfl

theorem outcome_look (path : Path) :
    tree.outcome (liftM (look path) : ExceptT ε (ReaderM Tree) Entry) = .ok (tree path) := rfl

theorem outcome_lift (action : ExceptT δ (ReaderM Tree) α) :
    tree.outcome (ExceptT.lift action.run : ExceptT ε (ReaderM Tree) (Except δ α)) =
      .ok (tree.outcome action) := rfl

theorem outcome_mk (result : Except ε α) : tree.outcome (ExceptT.mk (pure result)) = result := rfl

theorem outcome_pure (value : α) :
    tree.outcome (pure value : ExceptT ε (ReaderM Tree) α) = .ok value := rfl

end Tree

namespace Store

def loadWith (flaw? : Validator) (tree : Tree) (directory : Path) : Except LoadError Store :=
  tree.outcome (loadFromWith flaw? Tree.look directory)

def load (tree : Tree) (directory : Path) : Except LoadError Store :=
  tree.outcome (loadFrom Tree.look directory)

end Store

variable {flaw? : Store.Validator} {tree : Tree} {directory : Path}

namespace TableName

def loadWith (flaw? : Store.Validator) (tree : Tree) (directory : Path) (name : TableName) :
    Except LoadError (List name.Row) :=
  Store.tableOf flaw? name.columns (directory.child name.file) name.read
    (tree (directory.child name.file))

abbrev load (tree : Tree) (directory : Path) (name : TableName) :
    Except LoadError (List name.Row) :=
  name.loadWith Table.firstFlaw? tree directory

def LoadsWith (flaw? : Store.Validator) (tree : Tree) (directory : Path) (name : TableName) :
    Prop :=
  ∃ rows, name.loadWith flaw? tree directory = .ok rows

abbrev Loads (tree : Tree) (directory : Path) (name : TableName) : Prop :=
  LoadsWith Table.firstFlaw? tree directory name

end TableName

namespace Store

open TableName (LoadsWith)

theorem loadWith_of_directory (isDirectory : tree directory = .directory) :
    loadWith flaw? tree directory = (do
      let securities ← TableName.securities.loadWith flaw? tree directory
      let attributes ← TableName.attributes.loadWith flaw? tree directory
      let facts ← TableName.facts.loadWith flaw? tree directory
      return .ofRows securities attributes facts) := by
  simp only [loadWith, loadFromWith, Tree.outcome_bind, Tree.outcome_look, Except.ok_bind,
    isDirectory, Tree.outcome_mk, Tree.outcome_pure]
  rfl

theorem loadWith_verdict (isDirectory : tree directory = .directory) :
    ((∀ name, LoadsWith flaw? tree directory name) ∧
        ∃ store, loadWith flaw? tree directory = .ok store) ∨
      ∃ place name error, FirstAt (LoadsWith flaw? tree directory) TableName.all place name ∧
        name.loadWith flaw? tree directory = .error error ∧
        loadWith flaw? tree directory = .error error := by
  have unloaded {name : TableName} {error : LoadError}
      (failed : name.loadWith flaw? tree directory = .error error) :
      ¬ LoadsWith flaw? tree directory name :=
    Except.not_ok_of_error failed
  rw [loadWith_of_directory isDirectory]
  cases onSecurities : TableName.securities.loadWith flaw? tree directory with
  | error error =>
      exact .inr ⟨0, .securities, error, .head (unloaded onSecurities), onSecurities, rfl⟩
  | ok securityRows =>
      have first : LoadsWith flaw? tree directory .securities := ⟨securityRows, onSecurities⟩
      cases onAttributes : TableName.attributes.loadWith flaw? tree directory with
      | error error =>
          exact .inr ⟨1, .attributes, error, (FirstAt.head (unloaded onAttributes)).cons first,
            onAttributes, rfl⟩
      | ok attributeRows =>
          have second : LoadsWith flaw? tree directory .attributes :=
            ⟨attributeRows, onAttributes⟩
          cases onFacts : TableName.facts.loadWith flaw? tree directory with
          | error error =>
              exact .inr ⟨2, .facts, error,
                ((FirstAt.head (unloaded onFacts)).cons second).cons first, onFacts, rfl⟩
          | ok factRows =>
              refine .inl ⟨fun name => ?_, _, rfl⟩
              cases name with
              | securities => exact first
              | attributes => exact second
              | facts => exact ⟨factRows, onFacts⟩

theorem load_of_directory (isDirectory : tree directory = .directory) :
    load tree directory = (do
      let securities ← TableName.securities.load tree directory
      let attributes ← TableName.attributes.load tree directory
      let facts ← TableName.facts.load tree directory
      return .ofRows securities attributes facts) :=
  loadWith_of_directory isDirectory

theorem load_verdict (isDirectory : tree directory = .directory) :
    ((∀ name, TableName.Loads tree directory name) ∧ ∃ store, load tree directory = .ok store) ∨
      ∃ place name error, FirstAt (TableName.Loads tree directory) TableName.all place name ∧
        name.load tree directory = .error error ∧ load tree directory = .error error :=
  loadWith_verdict isDirectory

end Store

/-! ## Readable tables -/

namespace TableName

/-- The file of a table is text, and the text is JSON. -/
def Holds (tree : Tree) (directory : Path) (name : TableName) (table : Json) : Prop :=
  ∃ content text, tree (directory.child name.file) = .file content ∧
    Text.ofFile? content = some text ∧ Json.read .lenient text = .ok table

variable {name : TableName} {table : Json}

theorem loadWith_of_text {content : List UInt8} {text : Text}
    (file : tree (directory.child name.file) = .file content)
    (decoded : Text.ofFile? content = some text) :
    name.loadWith flaw? tree directory =
      Store.decodeTable (directory.child name.file) text >>=
        Store.rowsOf flaw? name.columns (directory.child name.file) name.read := by
  simp only [loadWith, Store.tableOf, file, Entry.content, Except.mapError, Except.ok_bind,
    decoded]

theorem loadWith_of_holds (holds : name.Holds tree directory table) :
    name.loadWith flaw? tree directory =
      Store.rowsOf flaw? name.columns (directory.child name.file) name.read table := by
  obtain ⟨content, text, file, decoded, read⟩ := holds
  rw [loadWith_of_text file decoded,
    (Store.decodeTable_eq_ok_iff (directory.child name.file)).mpr read, Except.ok_bind]

/-- Where a table loads, its rows are what is read of it. -/
theorem rows_of_loadWith {values : List name.Row} (holds : name.Holds tree directory table)
    (loaded : name.loadWith flaw? tree directory = .ok values) :
    Table.rows name.read table = .ok values := by
  rw [loadWith_of_holds holds, Store.rowsOf] at loaded
  cases flawed : flaw? name.columns table with
  | some flaw => simp [flawed] at loaded
  | none =>
      cases read : Table.rows name.read table with
      | error flaw => simp [flawed, read, Except.mapError] at loaded
      | ok rows =>
          rw [flawed, read] at loaded
          exact congrArg _ (Except.ok.inj loaded)

theorem loadWith_verdict_of_holds (validator : SchemaValidator)
    (holds : name.Holds tree directory table) :
    (name.columns.Fits table ∧ LoadsWith validator.flaw? tree directory name) ∨
      ∃ flaw, name.columns.FlawOf table flaw.location flaw ∧
        name.loadWith validator.flaw? tree directory =
          .error (.problem (.malformed (directory.child name.file) flaw)) := by
  rw [LoadsWith, loadWith_of_holds holds, Store.rowsOf]
  rcases validator.verdict name.columns table with ⟨fits, accepted⟩ | ⟨flaw, flawed, raised⟩
  · rcases Table.rows_verdict name.forget_read table with ⟨_, rows, read⟩ | ⟨_, _, flawed, _⟩
    · exact .inl ⟨fits, rows, by rw [accepted, read]; rfl⟩
    · exact absurd fits flawed.not_fits
  · exact .inr ⟨flaw, flawed, by rw [raised]⟩

theorem loadsWith_iff_fits (validator : SchemaValidator)
    (holds : name.Holds tree directory table) :
    LoadsWith validator.flaw? tree directory name ↔ name.columns.Fits table := by
  rcases loadWith_verdict_of_holds validator holds with ⟨fits, loads⟩ | ⟨flaw, flawed, failed⟩
  · exact iff_of_true loads fits
  · exact iff_of_false (Except.not_ok_of_error failed) flawed.not_fits

end TableName

namespace Store

/-- Where all tables are JSON, loading succeeds just if all fit their columns,
and else the error is about the first one that does not, at its first flaw. -/
theorem load_reports_first_flaw (validator : SchemaValidator) {tables : TableName → Json}
    (isDirectory : tree directory = .directory)
    (readable : ∀ name : TableName, name.Holds tree directory (tables name)) :
    ((∃ store, loadWith validator.flaw? tree directory = .ok store) ↔
      ∀ name : TableName, name.columns.Fits (tables name)) ∧
    ((¬ ∀ name : TableName, name.columns.Fits (tables name)) →
      ∃ place name location flaw,
        FirstAt (fun name : TableName => name.columns.Fits (tables name))
          TableName.all place name ∧
        name.columns.FlawOf (tables name) location flaw ∧
        loadWith validator.flaw? tree directory =
          .error (.problem (.malformed (directory.child name.file) flaw)) ∧
        (StoreProblem.malformed (directory.child name.file) flaw).message =
          "Data table " ++ name.file ++ " is malformed at " ++ location ++ ": " ++
            flaw.message) := by
  have fits (name : TableName) := TableName.loadsWith_iff_fits validator (readable name)
  rcases loadWith_verdict isDirectory with
    ⟨all, store, loaded⟩ | ⟨place, name, error, first, failed, stopped⟩
  · have allFit (name : TableName) := (fits name).mp (all name)
    exact ⟨iff_of_true ⟨store, loaded⟩ allFit, fun unfit => absurd allFit unfit⟩
  · have unfit := first.imp fits
    constructor
    · exact iff_of_false (Except.not_ok_of_error stopped) fun allFit => unfit.bad (allFit name)
    · intro _
      rcases TableName.loadWith_verdict_of_holds validator (readable name) with
        ⟨nameFits, _⟩ | ⟨flaw, flawed, reported⟩
      · exact absurd nameFits unfit.bad
      · cases failed.symm.trans reported
        refine ⟨place, name, flaw.location, flaw, unfit, flawed, stopped, ?_⟩
        rw [StoreProblem.message, Path.name_child]

/-- An identifier that is an integral float, then two columns of the wrong kind
in one row, and a row that is no object. -/
def flawedTables : TableName → Json
  | .securities => .array []
  | .attributes => .array
    [.object [("id", .number (.float (.ofDecimal false 10 (-1)))), ("name", .string "price")],
      .object [("name", .number (.int 5)), ("id", .bool true)], .number (.int 7)]
  | .facts => .null

def flawedTexts : TableName → Text
  | .securities => "[]"
  | .attributes => "[\x7b\"id\": 1.0, \"name\": \"price\"\x7d, " ++
    "\x7b\"name\": 5, \"id\": true\x7d, 7]"
  | .facts => "null"

theorem flawedTables_legible (name : TableName) : (flawedTables name).IsLegible := by
  cases name with
  | securities => exact .array nofun
  | facts => exact .null
  | attributes =>
      have first : (Json.object [("id", .number (.float (.ofDecimal false 10 (-1)))),
          ("name", .string "price")]).IsLegible := by
        refine .object (by decide) (by decide) ?_
        simp only [List.forall_mem_cons, List.not_mem_nil, false_imp_iff, implies_true, and_true]
        exact ⟨.number (by decide +kernel) rfl, .string (by decide)⟩
      have second : (Json.object [("name", .number (.int 5)), ("id", .bool true)]).IsLegible := by
        refine .object (by decide) (by decide) ?_
        simp only [List.forall_mem_cons, List.not_mem_nil, false_imp_iff, implies_true, and_true]
        exact ⟨.number rfl (by decide +kernel), .bool true⟩
      refine .array ?_
      simp only [List.forall_mem_cons, List.not_mem_nil, false_imp_iff, implies_true, and_true]
      exact ⟨first, second, .number rfl (by decide +kernel)⟩

theorem holds_flawed (name : TableName) :
    name.Holds (Tree.ofTexts flawedTexts) ⟨.root, []⟩ (flawedTables name) := by
  have written : flawedTexts name = (flawedTables name).line := by
    cases name <;> decide +kernel
  have decoded :
      Text.ofFile? (Encoding.utf8.encode (flawedTexts name)) = some (flawedTexts name) := by
    cases name <;> decide +kernel
  have shallow : (flawedTables name).nesting ≤ Json.nestingLimit := by
    cases name <;> decide
  refine ⟨_, _, Tree.ofTexts_child flawedTexts name, decoded, ?_⟩
  rw [written]
  exact Json.read_line (flawedTables_legible name) shallow

theorem load_reports_first_flaw_flawed :
    Tree.ofTexts flawedTexts ⟨.root, []⟩ = .directory ∧
    (∀ name : TableName, name.Holds (Tree.ofTexts flawedTexts) ⟨.root, []⟩ (flawedTables name)) ∧
    (¬ ∀ name : TableName, name.columns.Fits (flawedTables name)) ∧
    ∃ problem, load (Tree.ofTexts flawedTexts) ⟨.root, []⟩ = .error (.problem problem) ∧
      problem.message =
        "Data table attributes.json is malformed at 1/id: True is not of type 'integer'" := by
  have unfit : ¬ ∀ name : TableName, name.columns.Fits (flawedTables name) := by
    intro all
    obtain ⟨rows, same, _⟩ := all .facts
    cases same
  have shown : (match load (Tree.ofTexts flawedTexts) ⟨.root, []⟩ with
      | .error (.problem problem) => problem.message
      | _ => [] : Text) =
        "Data table attributes.json is malformed at 1/id: True is not of type 'integer'" := by
    decide +kernel
  obtain ⟨place, name, location, flaw, _, _, stopped, _⟩ :=
    (load_reports_first_flaw .rowByRow rfl holds_flawed).2 unfit
  have stopped : load (Tree.ofTexts flawedTexts) ⟨.root, []⟩ = _ := stopped
  rw [stopped] at shown
  exact ⟨rfl, holds_flawed, unfit, _, stopped, shown⟩

end Store

end Formulary
