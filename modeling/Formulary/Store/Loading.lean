import Formulary.Store.Table
import Formulary.Json.Reader
import Formulary.Fatal

namespace Formulary

/-! # Loading a store

A store is loaded from the three tables in a directory: securities, then
attributes, then facts.  The first table that cannot be read, is not JSON, or
is not of the required form decides the error.  What finds the flaw of a table
is an argument; its rows are read only where it finds none.
-/

inductive StoreProblem where
  | noDirectory (path : Path)
  | unreadable (path : Path) (error : FileError)
  /-- A table is not JSON; the place is where its text goes wrong. -/
  | notJson (path : Path) (flaw : Json.Flaw) (place : Text)
  | malformed (path : Path) (flaw : TableFlaw)
deriving Repr

namespace StoreProblem

def message : StoreProblem → Text
  | noDirectory path => "Data directory does not exist: " ++ path.text
  | unreadable path error =>
    "Failed to read data table " ++ path.text ++ ": " ++ error.message
  | notJson path flaw place =>
    "Invalid JSON in data table " ++ path.text ++ ": " ++ flaw.message ++ ": " ++ place
  | malformed path flaw =>
    "Data table " ++ path.name ++ " is malformed at " ++ flaw.location ++ ": " ++ flaw.message

end StoreProblem

inductive LoadError where
  | problem (problem : StoreProblem)
  | fatal (error : Fatal)
deriving Repr

namespace Store

def securitiesFile : Text := "securities.json"
def attributesFile : Text := "attributes.json"
def factsFile : Text := "facts.json"

variable {α : Type}

def decodeTable (path : Path) (text : Text) : Except LoadError Json :=
  match Json.read .lenient text with
  | .ok table => .ok table
  | .error (.flaw flaw offset) =>
    .error (.problem (.notJson path flaw (Json.placeText text offset)))
  | .error (.longNumeral digits) => .error (.fatal (.longNumeral digits))
  -- Lenient reading refuses no constant.
  | .error .nestedTooDeeply | .error .constantRefused => .error (.fatal .nestedTooDeeply)

/-- A validator: the flaw of a table with certain columns, if it has one. -/
abbrev Validator := Columns → Json → Option TableFlaw

/-- The rows of a table, which are only read if it has no flaw. -/
def rowsOf (flaw? : Validator) (columns : Columns) (path : Path)
    (read : Nat → Json → Except TableFlaw α) (table : Json) : Except LoadError (List α) :=
  match flaw? columns table with
  | some flaw => .error (.problem (.malformed path flaw))
  | none => (Table.rows read table).mapError fun flaw => .problem (.malformed path flaw)

def tableOf (flaw? : Validator) (columns : Columns) (path : Path)
    (read : Nat → Json → Except TableFlaw α) (entry : Entry) : Except LoadError (List α) := do
  let content ← (entry.content path).mapError fun error => .problem (.unreadable path error)
  match Text.ofFile? content with
  | none => .error (.fatal .undecodable)
  | some text =>
    let table ← decodeTable path text
    rowsOf flaw? columns path read table

variable {m : Type → Type} [Monad m]

/-- The store in a directory that is given by its absolute path, where `look`
tells what is under a path. -/
def loadFromWith (flaw? : Validator) (look : Path → m Entry) (directory : Path) :
    ExceptT LoadError m Store := do
  match ← look directory with
  | .directory =>
    let load {α : Type} (name : Text) (columns : Columns)
        (read : Nat → Json → Except TableFlaw α) : ExceptT LoadError m (List α) := do
      let path := directory.child name
      let entry ← look path
      ExceptT.mk (pure (tableOf flaw? columns path read entry))
    let securities ← load securitiesFile Table.securityColumns Table.securityRow
    let attributes ← load attributesFile Table.attributeColumns Table.attributeRow
    let facts ← load factsFile Table.factColumns Table.factRow
    return .ofRows securities attributes facts
  | .nameTooLong => throw (.fatal (.file (.nameTooLong directory)))
  | _ => throw (.problem (.noDirectory directory))

def loadFrom (look : Path → m Entry) (directory : Path) : ExceptT LoadError m Store :=
  loadFromWith Table.firstFlaw? look directory

end Store

end Formulary
