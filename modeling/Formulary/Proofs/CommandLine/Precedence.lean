import Formulary.Proofs.CommandLine.Printing
import Formulary.Proofs.CommandLine.StoreChoice
import Formulary.Proofs.Document.Reporting

namespace Formulary

/-! # Which failure ends the program

Settings are read before the document, and the document before the tables.  The
first of the three that fails ends the program with status two, whatever the
others are.  If none fails, the status is zero or one and tells about the
document alone.  What stands on standard error is given as text, and the words
about settings that cannot be read are those of their reader, whichever it is.
-/

/-- What is printed of a result. -/
def Result.output (json : Bool) (result : Result) : Text :=
  if json || result.success then result.shown json ++ "\n" else []

/-- What is complained of a result. -/
def Result.complaint (json : Bool) (result : Result) : List CommandLine.Line :=
  if json || result.success then []
  else [.plain ("[" ++ result.code ++ "] " ++ result.message)]

def Result.report (json : Bool) (result : Result) : Text :=
  if json || result.success then [] else "[" ++ result.code ++ "] " ++ result.message ++ "\n"

namespace CommandLine

/-! ## Stages -/

/-- Where a program runs: what is under each path, its directory and its input,
and what reads settings there. -/
structure World where
  tree : Tree
  working : Path
  input : Text
  reader : Yaml.Reader

inductive SourceError where
  | unreadable (error : FileError)
  | fatal (error : Fatal)

namespace World

def surroundings (world : World) : Surroundings (ReaderM Tree) :=
  ⟨world.working, Tree.look, pure world.input⟩

def run (world : World) (words : List Text) : Except Fatal Outcome :=
  ((programWith world.reader world.surroundings words).run world.tree).run

/-- What carrying out an invocation comes to, an early end included. -/
def outcome (world : World) (invocation : Invocation) : Except Stop Outcome :=
  world.tree.outcome (carryOut world.reader world.surroundings invocation)

def settings (world : World) (given : Given) : Except ConfigError Config :=
  if given.root = .blank then .error (.fatal .blankRoot)
  else ((Config.loadWith world.reader Tree.look world.working (given.root.value?.getD .here)
    given.config.value? (!given.config.isAbsent)).run world.tree).run

/-- The text of the file that a path names. -/
def file (world : World) (path : Path) : Except SourceError Text :=
  match path.fault? with
  | some fault => .error (.fatal (.name fault))
  | none =>
    match (world.tree (world.working.under path)).content path with
    | .error error => .error (.unreadable error)
    | .ok content =>
      match Text.ofFile? content with
      | some text => .ok text
      | none => .error (.fatal .undecodable)

def source (world : World) (given : Given) : Except SourceError Text :=
  match given.sample with
  | .value found => .ok found.document
  | .blank => .error (.fatal .blankSample)
  | .absent =>
    if given.file.getD [] = "-" then .ok world.input
    else world.file (Path.ofText (given.file.getD []))

/-- The store in the directory that is given, else in the one of the settings,
else the built-in one. -/
def store (world : World) (given : Given) (config : Config) : Except LoadError (Text × Store) :=
  match given.dataDirectory.value? <|> config.dataDirectory with
  | none => .ok (builtInPlace, .builtIn)
  | some path =>
    match (world.working.under path).fault? with
    | some fault => .error (.fatal (.name fault))
    | none =>
      (Store.load world.tree (path.resolve world.working)).map fun store =>
        ((path.resolve world.working).text, store)

end World

/-! ## Faults -/

inductive Fault where
  | config (problem : ConfigProblem)
  | source (error : FileError)
  | store (problem : StoreProblem)

def Fault.line : Fault → Line
  | config problem => .problem (.config problem)
  | source error => .plain ("Input error: " ++ error.message)
  | store problem => .problem (.store problem)

/-- The report of a fault on standard error. -/
def Fault.report : Fault → Text
  | config problem => "Configuration error: " ++ problem.message ++ "\n"
  | source error => "Input error: " ++ error.message ++ "\n"
  | store problem => "Configuration error: " ++ problem.message ++ "\n"

def Fault.stop (fault : Fault) : Stop :=
  .outcome ⟨2, [], [fault.line]⟩

def stopOfConfig : ConfigError → Stop
  | .problem problem => (Fault.config problem).stop
  | .fatal error => .fatal error

def stopOfSource : SourceError → Stop
  | .unreadable error => (Fault.source error).stop
  | .fatal error => .fatal error

def stopOfStore : LoadError → Stop
  | .problem problem => (Fault.store problem).stop
  | .fatal error => .fatal error

variable {world : World} {given : Given} {config : Config} {invocation : Invocation}
  {words : List Text} {text : Text}

theorem outcome_loadConfig :
    world.tree.outcome (loadConfig world.reader world.surroundings given) =
      (world.settings given).mapError stopOfConfig := by
  have lifted (action : ReaderM Tree (Except ConfigError Config)) :
      world.tree.outcome (ExceptT.lift action : ExceptT Stop (ReaderM Tree) _) =
        .ok (action.run world.tree).run := rfl
  unfold loadConfig World.settings
  by_cases blank : given.root = .blank
  · rw [if_pos blank, if_pos blank]
    rfl
  · rw [if_neg blank, if_neg blank]
    simp only [Tree.outcome_bind, lifted, Except.ok_bind, World.surroundings]
    cases (Config.loadWith world.reader Tree.look world.working (given.root.value?.getD .here)
        given.config.value? (!given.config.isAbsent)).run world.tree |>.run with
    | ok config => rfl
    | error error => cases error <;> rfl

theorem outcome_readSource :
    world.tree.outcome (readSource world.surroundings given) =
      (world.source given).mapError stopOfSource := by
  unfold readSource World.source
  cases given.sample with
  | value found => rfl
  | blank => rfl
  | absent =>
      dsimp only
      by_cases dash : given.file.getD [] = "-"
      · rw [if_pos dash, if_pos dash]
        rfl
      · rw [if_neg dash, if_neg dash]
        simp only [Tree.outcome_bind, checkName, Tree.outcome_mk, World.surroundings,
          Tree.outcome_look, World.file, Fatal.checkName]
        cases (Path.ofText (given.file.getD [])).fault? with
        | some fault => rfl
        | none =>
            simp only [Except.mapError, Except.ok_bind]
            cases (world.tree (world.working.under (Path.ofText (given.file.getD [])))).content
                (Path.ofText (given.file.getD [])) with
            | error error => rfl
            | ok content =>
                dsimp only
                cases Text.ofFile? content <;> rfl

theorem outcome_store :
    world.tree.outcome (selectStore world.surroundings given config) =
      (world.store given config).mapError stopOfStore := by
  unfold World.store
  cases named : given.dataDirectory.value? <|> config.dataDirectory with
  | none =>
      simp only [selectStore, named]
      rfl
  | some path =>
      rw [World.surroundings, outcome_selectStore named]
      dsimp only
      cases (world.working.under path).fault? with
      | some fault => rfl
      | none =>
          cases Store.load world.tree (path.resolve world.working) with
          | ok store => rfl
          | error error => cases error <;> rfl

/-! ## Runs -/

/-- The level from which on messages are reported. -/
def logLevelOf (given : Given) (config : Config) : LogLevel :=
  if given.verbose then .debug else config.logLevel

theorem outcome_carryOut (carried : invocation.command ≠ .examples) :
    world.outcome invocation = (do
      let config ← (world.settings invocation.given).mapError stopOfConfig
      let text ← (world.source invocation.given).mapError stopOfSource
      if invocation.command = .validate then
        validateOutcome (logLevelOf invocation.given config) text
      else
        let (place, store) ← (world.store invocation.given config).mapError stopOfStore
        runOutcome (logLevelOf invocation.given config) invocation.given.json place store
          text) := by
  unfold World.outcome carryOut
  rw [if_neg carried]
  simp only [Tree.outcome_bind, outcome_loadConfig, outcome_readSource]
  by_cases validates : invocation.command = .validate
  · simp only [if_pos validates, Tree.outcome_mk]
    rfl
  · simp only [if_neg validates, Tree.outcome_bind, outcome_store, Tree.outcome_mk]
    rfl

/-- A validation reads the settings for their log level alone, and no table. -/
theorem outcome_validation (validates : invocation.command = .validate) :
    world.outcome invocation = (do
      let level ← ((world.settings invocation.given).map Config.logLevel).mapError stopOfConfig
      let text ← (world.source invocation.given).mapError stopOfSource
      validateOutcome (if invocation.given.verbose then .debug else level) text) := by
  have carried : invocation.command ≠ .examples := by
    rw [validates]
    decide
  simp only [outcome_carryOut carried, if_pos validates]
  cases world.settings invocation.given <;> rfl

theorem outcome_running (runs : invocation.command = .run) :
    world.outcome invocation = (do
      let config ← (world.settings invocation.given).mapError stopOfConfig
      let text ← (world.source invocation.given).mapError stopOfSource
      let (place, store) ← (world.store invocation.given config).mapError stopOfStore
      runOutcome (logLevelOf invocation.given config) invocation.given.json place store text) := by
  have noValidation : invocation.command ≠ .validate := by
    rw [runs]
    decide
  have carried : invocation.command ≠ .examples := by
    rw [runs]
    decide
  simp only [outcome_carryOut carried, if_neg noValidation]

/-- What a run comes to, an early end with a report included. -/
def settle : Except Stop Outcome → Except Fatal Outcome
  | .ok outcome | .error (.outcome outcome) => .ok outcome
  | .error (.fatal error) => .error error

theorem run_of_read (invoked : read words = .ok invocation) :
    world.run words = settle (world.outcome invocation) := by
  simp only [World.run, programWith, invoked, ReaderT.run_bind]
  unfold World.outcome Tree.outcome
  generalize (carryOut world.reader world.surroundings invocation).run.run world.tree = ran
  rcases ran with (fatal | outcome) | outcome <;> rfl

/-- The first of the stages that fails. -/
inductive FirstFault (world : World) (invocation : Invocation) : Fault → Prop where
  | config {problem : ConfigProblem}
      (failed : world.settings invocation.given = .error (.problem problem)) :
      FirstFault world invocation (.config problem)
  | source {config : Config} {error : FileError}
      (configured : world.settings invocation.given = .ok config)
      (failed : world.source invocation.given = .error (.unreadable error)) :
      FirstFault world invocation (.source error)
  | store {config : Config} {text : Text} {problem : StoreProblem}
      (runs : invocation.command = .run)
      (configured : world.settings invocation.given = .ok config)
      (found : world.source invocation.given = .ok text)
      (failed : world.store invocation.given config = .error (.problem problem)) :
      FirstFault world invocation (.store problem)

/-- Nothing but faults keeps a stage from its end, and the text of a document
can be judged and the value of a result written. -/
structure Orderly (world : World) (invocation : Invocation) : Prop where
  settings : ∀ fatal, world.settings invocation.given ≠ .error (.fatal fatal)
  source : ∀ fatal, world.source invocation.given ≠ .error (.fatal fatal)
  store : invocation.command = .run → ∀ config, world.settings invocation.given = .ok config →
    ∀ fatal, world.store invocation.given config ≠ .error (.fatal fatal)
  judged : ∀ text, world.source invocation.given = .ok text →
    ∃ diagnosis?, Document.diagnose (.text text) = .ok diagnosis?
  written : invocation.command = .run → ∀ config text place store result,
    world.settings invocation.given = .ok config → world.source invocation.given = .ok text →
    world.store invocation.given config = .ok (place, store) →
    store.run (.text text) = .ok result → result.value.isPrintable = true

/-- How the program ends if no stage fails, and what it complains of then. -/
inductive Answers (world : World) (invocation : Invocation) :
    Outcome → (complaint : Text) → Prop where
  | valid {text : Text} (validates : invocation.command = .validate)
      (found : world.source invocation.given = .ok text)
      (accepted : Document.diagnose (.text text) = .ok none) :
      Answers world invocation ⟨0, "DSL is valid.\n", []⟩ []
  | invalid {text : Text} {diagnosis : Diagnosis} {logs : List Line}
      (validates : invocation.command = .validate)
      (found : world.source invocation.given = .ok text)
      (refused : Document.diagnose (.text text) = .ok (some diagnosis))
      (onlyLogs : ∀ line ∈ logs, line.isLog = true) :
      Answers world invocation ⟨1, [], logs ++ [.plain diagnosis.format]⟩
        (diagnosis.format ++ "\n")
  | ran {config : Config} {text place : Text} {store : Store} {result : Result}
      {logs : List Line} (runs : invocation.command = .run)
      (configured : world.settings invocation.given = .ok config)
      (found : world.source invocation.given = .ok text)
      (selected : world.store invocation.given config = .ok (place, store))
      (ran : store.run (.text text) = .ok result)
      (onlyLogs : ∀ line ∈ logs, line.isLog = true) :
      Answers world invocation
        ⟨if result.success then 0 else 1, result.output invocation.given.json,
          logs ++ result.complaint invocation.given.json⟩
        (result.report invocation.given.json)

/-- The text of what has been logged. -/
inductive LogText : Text → Prop where
  | none : LogText []
  | message {later : Text} (level : LogLevel) (message : Text) (rest : LogText later) :
      LogText (level.name ++ " " ++ message ++ "\n" ++ later)
  | trace {later : Text} (rest : LogText later) : LogText ("(unexpected failure)\n" ++ later)

theorem logText_of_isLog {logs : List Line} (onlyLogs : ∀ line ∈ logs, line.isLog = true) :
    LogText (logs.flatMap Line.text) := by
  induction logs with
  | nil => exact .none
  | cons line logs ih =>
      obtain ⟨isLog, later⟩ := List.forall_mem_cons.mp onlyLogs
      rw [List.flatMap_cons]
      cases line with
      | log level message => exact .message level message (ih later)
      | trace => exact .trace (ih later)
      | _ => cases isLog

theorem errorText_fault (fault : Fault) :
    Outcome.errorText ⟨2, [], [fault.line]⟩ = fault.report := by
  cases fault <;> exact List.append_nil _

theorem Result.complaint_text (json : Bool) (result : Result) :
    (result.complaint json).flatMap Line.text = result.report json := by
  unfold Result.complaint Result.report
  split
  · rfl
  · exact List.append_nil _

/-- Behind what has been logged stands the complaint. -/
theorem Answers.errorText {outcome : Outcome} {complaint : Text}
    (answers : Answers world invocation outcome complaint) :
    ∃ logs, LogText logs ∧ outcome.errorText = logs ++ complaint := by
  cases answers with
  | valid => exact ⟨[], .none, rfl⟩
  | invalid _ _ _ onlyLogs =>
      refine ⟨_, logText_of_isLog onlyLogs, ?_⟩
      rw [Outcome.errorText, List.flatMap_append]
      exact congrArg _ (List.append_nil _)
  | ran _ _ _ _ _ onlyLogs =>
      refine ⟨_, logText_of_isLog onlyLogs, ?_⟩
      rw [Outcome.errorText, List.flatMap_append, Result.complaint_text]

theorem Answers.status_ne {outcome : Outcome} {complaint : Text}
    (answers : Answers world invocation outcome complaint) : outcome.status ≠ 2 := by
  cases answers with
  | valid => decide
  | invalid => exact Nat.succ_ne_succ_iff.mpr (by decide)
  | ran =>
      dsimp only
      split <;> decide

theorem printResult_eq {json : Bool} {logs : List Line} {result : Result}
    (printable : result.value.isPrintable = true) :
    printResult json logs result =
      .ok ⟨if result.success then 0 else 1, result.output json, logs ++ result.complaint json⟩ := by
  cases json <;> cases succeeded : result.success <;>
    simp [printResult, printable, succeeded, Result.output, Result.complaint, Result.shown]

theorem FirstFault.stops {fault : Fault} (carried : invocation.command ≠ .examples)
    (first : FirstFault world invocation fault) :
    world.outcome invocation = .error fault.stop := by
  cases first with
  | config failed =>
      rw [outcome_carryOut carried, failed]
      rfl
  | source configured failed =>
      rw [outcome_carryOut carried, configured, failed]
      rfl
  | store runs configured found failed =>
      rw [outcome_running runs, configured, found]
      simp only [Except.mapError, Except.ok_bind, failed]
      rfl

theorem answers_validation (validates : invocation.command = .validate)
    (orderly : Orderly world invocation) {config : Config} {text : Text}
    (configured : world.settings invocation.given = .ok config)
    (found : world.source invocation.given = .ok text) :
    ∃ outcome complaint, Answers world invocation outcome complaint ∧
      world.outcome invocation = .ok outcome := by
  obtain ⟨diagnosis?, diagnosed⟩ := orderly.judged text found
  simp only [outcome_validation validates, configured, found, Except.map, Except.mapError,
    Except.ok_bind, validateOutcome, diagnosed]
  cases diagnosis? with
  | none => exact ⟨_, _, .valid validates found diagnosed, rfl⟩
  | some diagnosis =>
      exact ⟨_, _, .invalid validates found diagnosed fun _ listed => isLog_of_mem_logged listed,
        rfl⟩

theorem answers_run (runs : invocation.command = .run) (orderly : Orderly world invocation)
    {config : Config} {text place : Text} {store : Store}
    (configured : world.settings invocation.given = .ok config)
    (found : world.source invocation.given = .ok text)
    (selected : world.store invocation.given config = .ok (place, store)) :
    ∃ outcome complaint, Answers world invocation outcome complaint ∧
      world.outcome invocation = .ok outcome := by
  simp only [outcome_running runs, configured, found, selected, Except.mapError, Except.ok_bind]
  obtain ⟨result, ran⟩ := (Document.run_exists_iff store).mpr
    (Document.diagnose_exists_iff.mp (orderly.judged text found))
  have printable := orderly.written runs config text place store result configured found
    selected ran
  obtain ⟨logs, onlyLogs, outcome⟩ := runOutcome_logs (logLevelOf invocation.given config)
    invocation.given.json place ran
  rw [printResult_eq printable] at outcome
  exact ⟨_, _, .ran runs configured found selected ran onlyLogs, outcome⟩

theorem answers_of_no_fault (carried : invocation.command ≠ .examples)
    (orderly : Orderly world invocation) (sound : ¬ ∃ fault, FirstFault world invocation fault) :
    ∃ outcome complaint, Answers world invocation outcome complaint ∧
      world.outcome invocation = .ok outcome := by
  cases configured : world.settings invocation.given with
  | error error =>
      cases error with
      | problem problem => exact absurd ⟨_, .config configured⟩ sound
      | fatal error => exact absurd configured (orderly.settings error)
  | ok config =>
      cases found : world.source invocation.given with
      | error error =>
          cases error with
          | unreadable error => exact absurd ⟨_, .source configured found⟩ sound
          | fatal error => exact absurd found (orderly.source error)
      | ok text =>
          cases command : invocation.command with
          | examples => exact absurd command carried
          | validate => exact answers_validation command orderly configured found
          | run =>
              cases selected : world.store invocation.given config with
              | error error =>
                  cases error with
                  | problem problem =>
                      exact absurd ⟨_, .store command configured found selected⟩ sound
                  | fatal error =>
                      exact absurd selected (orderly.store command config configured error)
              | ok selection => exact answers_run command orderly configured found selected

/-- Settings, document, tables: the first of them that fails ends the program with
status two and its report on standard error, and else the document alone decides
how it ends.  The tables have no part in a validation. -/
theorem program_precedence (invoked : read words = .ok invocation)
    (carried : invocation.command ≠ .examples) (orderly : Orderly world invocation) :
    ∃ outcome, world.run words = .ok outcome ∧
      (outcome.status = 2 ↔ ∃ fault, FirstFault world invocation fault) ∧
      (∀ fault, FirstFault world invocation fault →
        outcome = ⟨2, [], [fault.line]⟩ ∧ outcome.errorText = fault.report) ∧
      ((¬ ∃ fault, FirstFault world invocation fault) →
        ∃ complaint logs, Answers world invocation outcome complaint ∧ LogText logs ∧
          outcome.errorText = logs ++ complaint) ∧
      (invocation.command = .validate → ∀ other : World,
        (other.settings invocation.given).map Config.logLevel =
          (world.settings invocation.given).map Config.logLevel →
        other.source invocation.given = world.source invocation.given →
        other.run words = world.run words) := by
  have independent (validates : invocation.command = .validate) (other : World)
      (sameLevel : (other.settings invocation.given).map Config.logLevel =
        (world.settings invocation.given).map Config.logLevel)
      (sameText : other.source invocation.given = world.source invocation.given) :
      other.run words = world.run words := by
    rw [run_of_read invoked, run_of_read invoked, outcome_validation validates,
      outcome_validation validates, sameLevel, sameText]
  by_cases fails : ∃ fault, FirstFault world invocation fault
  · obtain ⟨fault, first⟩ := fails
    refine ⟨⟨2, [], [fault.line]⟩, ?_, iff_of_true rfl ⟨fault, first⟩, ?_,
      fun sound => absurd ⟨fault, first⟩ sound, independent⟩
    · rw [run_of_read invoked, first.stops carried]
      rfl
    · intro other alsoFirst
      have same := (first.stops carried).symm.trans (alsoFirst.stops carried)
      have same := Stop.outcome.inj (Except.error.inj same)
      exact ⟨same, same ▸ errorText_fault other⟩
  · obtain ⟨outcome, complaint, answers, ended⟩ := answers_of_no_fault carried orderly fails
    obtain ⟨logs, onlyLogs, shown⟩ := answers.errorText
    refine ⟨outcome, ?_, iff_of_false answers.status_ne fails,
      fun fault first => absurd ⟨fault, first⟩ fails,
      fun _ => ⟨complaint, logs, answers, onlyLogs, shown⟩, independent⟩
    rw [run_of_read invoked, ended]
    rfl

/-- A file that holds an open brace, and nothing else. -/
def braceWorld : World where
  tree := fun path => if path = ⟨.root, ["home", "doc.json"]⟩ then .file [0x7B] else .missing
  working := ⟨.root, ["home"]⟩
  input := []
  reader := Yaml.reader

def braceGiven : Given :=
  { Given.start with
    file := some "doc.json"
    dataDirectory := .value ⟨.relative, ["nowhere"]⟩ }

theorem settings_brace : braceWorld.settings braceGiven = .ok .default := rfl

theorem source_brace : braceWorld.source braceGiven = .ok "\x7b" := rfl

theorem store_brace : braceWorld.store braceGiven .default =
    .error (.problem (.noDirectory ⟨.root, ["home", "nowhere"]⟩)) := rfl

theorem orderly_brace : Orderly braceWorld ⟨.run, braceGiven⟩ where
  settings := by
    rw [settings_brace]
    nofun
  source := by
    rw [source_brace]
    nofun
  store := by
    intro _ config configured
    cases settings_brace.symm.trans configured
    rw [store_brace]
    nofun
  judged := by
    intro text found
    cases source_brace.symm.trans found
    exact ⟨some .invalidJson, rfl⟩
  written := by
    intro _ config text place store result configured _ selected
    cases settings_brace.symm.trans configured
    cases store_brace.symm.trans selected

/-- A missing directory of tables comes before an invalid document. -/
theorem program_precedence_brace :
    read ["run", "doc.json", "-d", "nowhere"] = .ok ⟨.run, braceGiven⟩ ∧
      Orderly braceWorld ⟨.run, braceGiven⟩ ∧
      Document.diagnose (.text "\x7b") = .ok (some .invalidJson) ∧
      ∃ outcome, braceWorld.run ["run", "doc.json", "-d", "nowhere"] = .ok outcome ∧
        outcome = ⟨2, [], [.problem (.store (.noDirectory ⟨.root, ["home", "nowhere"]⟩))]⟩ ∧
        outcome.errorText =
          "Configuration error: Data directory does not exist: /home/nowhere\n" := by
  have invoked : read ["run", "doc.json", "-d", "nowhere"] = .ok ⟨.run, braceGiven⟩ := by
    decide +kernel
  obtain ⟨outcome, ended, _, faulty, _⟩ :=
    program_precedence invoked (by decide) orderly_brace
  have first : FirstFault braceWorld ⟨.run, braceGiven⟩
      (.store (.noDirectory ⟨.root, ["home", "nowhere"]⟩)) :=
    .store rfl settings_brace source_brace store_brace
  obtain ⟨same, reported⟩ := faulty _ first
  exact ⟨invoked, orderly_brace, rfl, outcome, ended, same, reported⟩

end CommandLine

end Formulary
