import Formulary.LogLevel
import Formulary.Yaml.Reader

namespace Formulary

/-! # Configuration

Settings are read from a file that is named, or from the settings file in a
root directory if there is one.  A relative directory of tables is taken from
the directory of the settings file.
-/

structure Config where
  dataDirectory : Option Path
  logLevel : LogLevel
deriving DecidableEq, Repr

/-- A file that a reader does not take for settings, and what the reader says of it. -/
structure Misread extends Path where
  words : Text
deriving Repr

inductive ConfigProblem where
  | notFound (path : Path)
  | notYaml (file : Misread)
  | notMapping (path : Path)
  | unknownKeys (keys : List Yaml.Atom)
  | dataDirectory
  | logLevel (found : Yaml.Value)
deriving Repr

namespace ConfigProblem

def message : ConfigProblem → Text
  | notFound path => "Config file not found: " ++ path.text
  | notYaml file => "Invalid YAML config file at " ++ file.text ++ ": " ++ file.words
  | notMapping path => "Config file at " ++ path.text ++ " must be a YAML mapping"
  | unknownKeys keys => "Unknown config keys: " ++ Yaml.Atom.listLiteral keys
  | dataDirectory => "data_dir must be a non-empty string"
  | logLevel found =>
    "log_level must be one of " ++
      Yaml.Atom.listLiteral (LogLevel.all.map fun level => .text level.name) ++
      ", got " ++ found.literal

end ConfigProblem

inductive ConfigError where
  | problem (problem : ConfigProblem)
  | fatal (error : Fatal)
deriving Repr

namespace Config

def fileName : Text := "secexpr.yaml"
def dataDirectoryKey : Text := "data_dir"
def logLevelKey : Text := "log_level"

def default : Config := ⟨none, .warning⟩

def isKnown (key : Yaml.Atom) : Bool :=
  key.same (.text dataDirectoryKey) || key.same (.text logLevelKey)

/-- A problem whose message shows a value, unless something keeps it from being shown. -/
def report (shown : Yaml.Value) (problem : ConfigProblem) : ConfigError :=
  match shown.fault? Yaml.Value.levelLimit with
  | none => .problem problem
  | some error => .fatal error

/-- Settings have no unknown keys; those there are, are reported in order. -/
def checkKeys (keys : List Yaml.Atom) : Except ConfigError Unit :=
  match keys.filter fun key => !isKnown key with
  | [] => .ok ()
  | unknown =>
    match Yaml.Atom.sorted? unknown with
    | some sorted => .error (report (.sequence (sorted.map .atom)) (.unknownKeys sorted))
    | none => .error (.fatal .unorderedKeys)

/-- The directory of tables, as seen from the directory of the settings. -/
def readDataDirectory (base : Path) (found : Option Yaml.Item) :
    Except ConfigError (Option Path) :=
  match found with
  | none | some (.atom .null) => .ok none
  | some (.atom (.text text)) =>
    if Text.isAllBlank text then .error (.problem .dataDirectory)
    else .ok (some (base.under (Path.ofText text)))
  | some _ => .error (.problem .dataDirectory)

def level? : Yaml.Item → Option LogLevel
  | .atom (.text text) => LogLevel.ofText? text
  | _ => none

/-- The level among the values of a document; the message about a value that
names none shows it as a tree. -/
def readLogLevel (document : Yaml.Document) (found : Option Yaml.Item) :
    Except ConfigError LogLevel :=
  match found with
  | none => .ok default.logLevel
  | some found =>
    match level? found with
    | some level => .ok level
    | none =>
      let shown := document.tree found
      .error (report shown (.logLevel shown))

def ofDocument (path : Path) (document : Yaml.Document) : Except ConfigError Config :=
  if document.root = .atom .null then .ok default
  else
    match document.members? document.root with
    | none => .error (.problem (.notMapping path))
    | some settings => do
      checkKeys (settings.map Prod.fst)
      let dataDirectory ←
        readDataDirectory path.parent (Yaml.Atom.lookup? (.text dataDirectoryKey) settings)
      let logLevel ← readLogLevel document (Yaml.Atom.lookup? (.text logLevelKey) settings)
      return ⟨dataDirectory, logLevel⟩

def ofEntry (read : Yaml.Reader) (path : Path) (entry : Entry) : Except ConfigError Config := do
  let content ← (entry.content path).mapError fun error => .fatal (.file error)
  match Text.ofFile? content with
  | none => .error (.fatal .undecodable)
  | some text =>
    match read text with
    | .ok document => ofDocument path document
    | .error (.malformed words) => .error (.problem (.notYaml ⟨path, words⟩))
    | .error (.fatal error) => .error (.fatal error)

/-- The path of the settings file.  Both paths that it may come from have to
have names. -/
def locate (directory root : Path) (named : Option Path) : Except ConfigError Path := do
  (Fatal.checkName (directory.under root)).mapError .fatal
  match named with
  | none => return (root.resolve directory).child fileName
  | some path =>
    (Fatal.checkName (directory.under path)).mapError .fatal
    return path.resolve directory

/-- The configuration in the file at a path, where an entry is what is there.
A file that is missing is an error only where one is required. -/
def atPath (read : Yaml.Reader) (path : Path) (required : Bool) (entry : Entry) :
    Except ConfigError Config :=
  if entry = .nameTooLong then .error (.fatal (.file (.nameTooLong path)))
  else if entry.exists? then ofEntry read path entry
  else if required then .error (.problem (.notFound path))
  else .ok default

variable {m : Type → Type} [Monad m]

/-- The configuration from the file at `named`, or from the settings file in
`root`; both paths are seen from a directory. -/
def loadWith (read : Yaml.Reader) (look : Path → m Entry) (directory root : Path)
    (named : Option Path) (required : Bool) : m (Except ConfigError Config) := do
  match locate directory root named with
  | .error error => return .error error
  | .ok path => return atPath read path required (← look path)

def load (look : Path → m Entry) (directory root : Path) (named : Option Path)
    (required : Bool) : m (Except ConfigError Config) :=
  loadWith Yaml.reader look directory root named required

end Config

end Formulary
