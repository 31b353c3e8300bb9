import Formulary.CommandLine.Arguments
import Formulary.Config
import Formulary.Evaluation
import Formulary.Store.BuiltIn
import Formulary.Store.Loading

namespace Formulary.CommandLine

/-! # The program

What the program prints and the status that it ends with, given its words and
what it finds in files.  Settings are read first, then the document, then the
tables; the first of these that fails ends the program with status two.  A
document that is invalid or has no value ends it with status one.
-/

inductive Problem where
  | config (problem : ConfigProblem)
  | store (problem : StoreProblem)
deriving Repr

def Problem.message : Problem → Text
  | config problem => problem.message
  | store problem => problem.message

inductive Line where
  | plain (text : Text)
  /-- Text that brings its own line ends. -/
  | block (text : Text)
  | log (level : LogLevel) (message : Text)
  /-- Where in the program an unexpected failure arose. -/
  | trace
  | problem (problem : Problem)
deriving Repr

def Line.text : Line → Text
  | plain text => text ++ "\n"
  | block text => text
  | log level message => level.name ++ " " ++ message ++ "\n"
  | trace => "(unexpected failure)\n"
  | problem found => "Configuration error: " ++ found.message ++ "\n"

structure Outcome where
  status : Nat
  output : Text
  errors : List Line
deriving Repr

/-- The text on standard error. -/
def Outcome.errorText (outcome : Outcome) : Text :=
  outcome.errors.flatMap Line.text

/-- Where the program runs: the working directory, what is under each path, and
the text of standard input. -/
structure Surroundings (m : Type → Type) where
  directory : Path
  look : Path → m Entry
  input : m Text

/-- The program up to a report: a fatal error, or an outcome that comes early. -/
inductive Stop where
  | fatal (error : Fatal)
  | outcome (outcome : Outcome)

def Exit.outcome : Exit → Outcome
  | help scope => ⟨0, scope.help, []⟩
  | version => ⟨0, Scope.version ++ "\n", []⟩
  | misuse scope mistake =>
    ⟨2, [], [.block scope.usage, .plain (scope.name ++ ": error: " ++ mistake.message)]⟩

def logged (set : LogLevel) (lines : List (LogLevel × Text)) : List Line :=
  (lines.filter fun line => set.admits line.1).map fun line => .log line.1 line.2

def builtInPlace : Text := "<tables>"

def loadedLine (place : Text) (store : Store) : LogLevel × Text :=
  (.debug, "Loaded data store from " ++ place ++ ": " ++ store.summary)

def rejectedLine (diagnosis : Diagnosis) : LogLevel × Text :=
  if diagnosis.code = Code.invalidJson.name then (.debug, "DSL rejected: invalid JSON")
  else (.debug, "DSL rejected at " ++ diagnosis.path ++ ": " ++ diagnosis.message)

def evaluationLines (set : LogLevel) :
    Except Failure (Security × Number) → List Line
  | .ok (security, value) =>
    logged set
      [(.debug, "DSL for " ++ security.symbol ++ " evaluated to " ++ value.literal)]
  | .error (.unexpected _) =>
    match logged set [(.warning, "Unexpected failure executing DSL")] with
    | [] => []
    | lines => lines ++ [.trace]
  | .error failure => logged set [(.debug, "DSL evaluation failed: " ++ failure.message)]

variable {m : Type → Type} [Monad m]

/-- A path that has no name stops the program. -/
def checkName (path : Path) : ExceptT Stop m Unit :=
  ExceptT.mk (pure ((Fatal.checkName path).mapError .fatal))

def readSource (surroundings : Surroundings m) (given : Given) : ExceptT Stop m Text := do
  match given.sample with
  | .value found => return found.document
  | .blank => throw (.fatal .blankSample)
  | .absent =>
    let name := given.file.getD []
    if name = "-" then surroundings.input
    else
      let path := Path.ofText name
      checkName path
      let entry ← surroundings.look (surroundings.directory.under path)
      match entry.content path with
      | .error error =>
        throw (.outcome ⟨2, [], [.plain ("Input error: " ++ error.message)]⟩)
      | .ok content =>
        match Text.ofFile? content with
        | some text => return text
        | none => throw (.fatal .undecodable)

def refusal (problem : Problem) (errors : List Line) : Stop :=
  .outcome ⟨2, [], errors ++ [.problem problem]⟩

/-- The configuration.  A switch for its file that has lost its value names no
other file, but makes a file necessary. -/
def loadConfig (reader : Yaml.Reader) (surroundings : Surroundings m) (given : Given) :
    ExceptT Stop m Config := do
  if given.root = .blank then throw (.fatal .blankRoot)
  let root := given.root.value?.getD .here
  let loaded ← ExceptT.lift
    (Config.loadWith reader surroundings.look surroundings.directory root given.config.value?
      (!given.config.isAbsent))
  match loaded with
  | .ok config => return config
  | .error (.fatal error) => throw (.fatal error)
  | .error (.problem problem) => throw (refusal (.config problem) [])

def selectStore (surroundings : Surroundings m) (given : Given) (config : Config) :
    ExceptT Stop m (Text × Store) := do
  match given.dataDirectory.value? <|> config.dataDirectory with
  | none => return (builtInPlace, .builtIn)
  | some path =>
    checkName (surroundings.directory.under path)
    let directory := path.resolve surroundings.directory
    let loaded ← ExceptT.lift (Store.loadFrom surroundings.look directory).run
    match loaded with
    | .ok store => return (directory.text, store)
    | .error (.fatal error) => throw (.fatal error)
    | .error (.problem problem) => throw (refusal (.store problem) [])

def validateOutcome (set : LogLevel) (text : Text) : Except Stop Outcome :=
  match Document.diagnose (.text text) with
  | .error error => .error (.fatal (.range error))
  | .ok none => .ok ⟨0, "DSL is valid.\n", []⟩
  | .ok (some diagnosis) =>
    .ok ⟨1, [], logged set [rejectedLine diagnosis] ++ [.plain diagnosis.format]⟩

def printResult (json : Bool) (logs : List Line) (result : Result) : Except Stop Outcome :=
  let status := if result.success then 0 else 1
  if !result.value.isPrintable then .error (.fatal .unprintable)
  else if json then .ok ⟨status, result.toJson.line ++ "\n", logs⟩
  else if result.success then .ok ⟨status, result.value.resultText ++ "\n", logs⟩
  else .ok ⟨status, [], logs ++ [.plain ("[" ++ result.code ++ "] " ++ result.message)]⟩

def runOutcome (set : LogLevel) (json : Bool) (place : Text) (store : Store) (text : Text) :
    Except Stop Outcome :=
  let loaded := logged set [loadedLine place store]
  match Document.load (.text text) with
  | .error (.range error) => .error (.fatal (.range error))
  | .error .notJson => printResult json loaded (.ofDiagnosis .invalidJson)
  | .error (.violation violation) =>
    printResult json loaded (.ofDiagnosis (.ofViolation violation))
  | .ok document =>
    let logs := loaded ++ evaluationLines set (Document.evaluate store document)
    printResult json logs (store.execute document)

def carryOut (reader : Yaml.Reader) (surroundings : Surroundings m)
    (invocation : Invocation) : ExceptT Stop m Outcome := do
  let given := invocation.given
  if invocation.command = .examples then return ⟨0, Example.listing, []⟩
  let config ← loadConfig reader surroundings given
  let set := if given.verbose then .debug else config.logLevel
  let text ← readSource surroundings given
  if invocation.command = .validate then
    ExceptT.mk (pure (validateOutcome set text))
  else
    let (place, store) ← selectStore surroundings given config
    ExceptT.mk (pure (runOutcome set given.json place store text))

/-- The program: what it prints and the status that it ends with, unless a
fatal error stops it. -/
def programWith (reader : Yaml.Reader) (surroundings : Surroundings m)
    (words : List Text) : m (Except Fatal Outcome) := do
  match read words with
  | .error exit => return .ok exit.outcome
  | .ok invocation =>
    match ← (carryOut reader surroundings invocation).run with
    | .ok outcome => return .ok outcome
    | .error (.outcome outcome) => return .ok outcome
    | .error (.fatal error) => return .error error

def program (surroundings : Surroundings m) (words : List Text) : m (Except Fatal Outcome) :=
  programWith Yaml.reader surroundings words

end Formulary.CommandLine
