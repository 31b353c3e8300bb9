import Formulary.Store
import Formulary.Json.Literal

namespace Formulary

/-! # Tables

A table is an array of rows, and a row is an object with the columns of its
table and any others.  Rows are checked in order; in a row all columns have to
be there before the kinds of their values are looked at, column by column.
-/

inductive ColumnKind where
  /-- An integer, or a float that is equal to one. -/
  | integer
  | string
  | number
deriving DecidableEq, Repr

def ColumnKind.name : ColumnKind → Text
  | integer => "integer"
  | string => "string"
  | number => "number"

/-- The columns of a table in their order. -/
abbrev Columns := List (Text × ColumnKind)

def Columns.names (columns : Columns) : List Text := columns.map Prod.fst

inductive TableFlaw where
  | notArray (found : Json)
  | notObject (row : Nat) (found : Json)
  | missing (row : Nat) (column : Text)
  | wrongKind (row : Nat) (column : Text) (kind : ColumnKind) (found : Json)
deriving Repr

namespace TableFlaw

def location : TableFlaw → Text
  | notArray _ => "<root>"
  | notObject row _ | missing row _ => Numeral.ofNat row
  | wrongKind row column _ _ => Numeral.ofNat row ++ "/" ++ column

def notOfType (found : Json) (kind : Text) : Text :=
  found.literal ++ " is not of type '" ++ kind ++ "'"

def message : TableFlaw → Text
  | notArray found => notOfType found "array"
  | notObject _ found => notOfType found "object"
  | missing _ column => Text.literal column ++ " is a required property"
  | wrongKind _ _ kind found => notOfType found kind.name

end TableFlaw

namespace Table

def idName : Text := "id"
def symbolName : Text := "symbol"
def nameName : Text := "name"
def securityIdName : Text := "security_id"
def attributeIdName : Text := "attribute_id"
def valueName : Text := "value"

def securityColumns : Columns := [(idName, .integer), (symbolName, .string)]
def attributeColumns : Columns := [(idName, .integer), (nameName, .string)]
def factColumns : Columns :=
  [(securityIdName, .integer), (attributeIdName, .integer), (valueName, .number)]

/-- The members of a row that has all its columns. -/
def fieldsOf (columns : List Text) (row : Nat) (found : Json) : Except TableFlaw Fields :=
  match found with
  | .object fields =>
    match columns.find? fun column => (Fields.get? column fields).isNone with
    | some column => .error (.missing row column)
    | none => .ok fields
  | other => .error (.notObject row other)

def isInteger : Number → Bool
  | .int _ => true
  | .float value => value.toInt?.isSome

def identifier (row : Nat) (fields : Fields) (column : Text) : Except TableFlaw Id :=
  match (fields.get? column).getD .null with
  | .number value =>
    if isInteger value then .ok (.number value)
    else .error (.wrongKind row column .integer (.number value))
  | other => .error (.wrongKind row column .integer other)

def string (row : Nat) (fields : Fields) (column : Text) : Except TableFlaw Text :=
  match (fields.get? column).getD .null with
  | .string value => .ok value
  | other => .error (.wrongKind row column .string other)

def number (row : Nat) (fields : Fields) (column : Text) : Except TableFlaw Number :=
  match (fields.get? column).getD .null with
  | .number value => .ok value
  | other => .error (.wrongKind row column .number other)

def securityRow (row : Nat) (found : Json) : Except TableFlaw Security := do
  let fields ← fieldsOf securityColumns.names row found
  let id ← identifier row fields idName
  let symbol ← string row fields symbolName
  return ⟨id, symbol, fields.without securityColumns.names⟩

def attributeRow (row : Nat) (found : Json) : Except TableFlaw Attribute := do
  let fields ← fieldsOf attributeColumns.names row found
  let id ← identifier row fields idName
  let name ← string row fields nameName
  return ⟨id, name, fields.without attributeColumns.names⟩

def factRow (row : Nat) (found : Json) : Except TableFlaw Fact := do
  let fields ← fieldsOf factColumns.names row found
  let securityId ← identifier row fields securityIdName
  let attributeId ← identifier row fields attributeIdName
  let value ← number row fields valueName
  return ⟨securityId, attributeId, value⟩

variable {α : Type}

/-- Read rows one after the other, the first of them with a given number. -/
def rowsFrom (read : Nat → Json → Except TableFlaw α) (first : Nat) :
    List Json → Except TableFlaw (List α)
  | [] => .ok []
  | found :: rest => do
    let row ← read first found
    let rows ← rowsFrom read (first + 1) rest
    return row :: rows

def rows (read : Nat → Json → Except TableFlaw α) : Json → Except TableFlaw (List α)
  | .array items => rowsFrom read 0 items
  | other => .error (.notArray other)

/-! ## The first flaw -/

/-- Check a column of a row that has it. -/
def checkColumn (row : Nat) (fields : Fields) : Text × ColumnKind → Except TableFlaw Unit
  | (column, .integer) => (identifier row fields column).map fun _ => ()
  | (column, .string) => (string row fields column).map fun _ => ()
  | (column, .number) => (number row fields column).map fun _ => ()

def checkColumns (row : Nat) (fields : Fields) : Columns → Except TableFlaw Unit
  | [] => .ok ()
  | column :: rest => do
    checkColumn row fields column
    checkColumns row fields rest

def checkRow (columns : Columns) (row : Nat) (found : Json) : Except TableFlaw Unit := do
  let fields ← fieldsOf columns.names row found
  checkColumns row fields columns

/-- The first flaw of a table, if it has one. -/
def firstFlaw? (columns : Columns) (table : Json) : Option TableFlaw :=
  match rows (checkRow columns) table with
  | .ok _ => none
  | .error flaw => some flaw

end Table

end Formulary
