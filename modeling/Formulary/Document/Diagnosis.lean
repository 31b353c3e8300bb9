import Formulary.Document.Validation
import Formulary.Json.Reader
import Formulary.Text.Encoding

namespace Formulary

/-! # Diagnosis

A document arrives as a text or as bytes.  It is read as strict JSON and
validated, and what is wrong with it is reported as a value: a code, the part
of the document, the member, a sentence, and sometimes a hint.
-/

inductive Source where
  | text (text : Text)
  | bytes (bytes : List UInt8)
  /-- Neither a text nor bytes. -/
  | none

inductive Code where
  | invalidJson
  | invalidDocument
  | unknownSecurity
  | unknownAttribute
  | missingFact
  | unexpected
deriving DecidableEq, Repr

def Code.name : Code → Text
  | .invalidJson => "DSL001"
  | .invalidDocument => "DSL002"
  | .unknownSecurity => "DSL101"
  | .unknownAttribute => "DSL102"
  | .missingFact => "DSL103"
  | .unexpected => "DSL199"

structure Diagnosis where
  code : Text
  path : Text
  field : Text
  message : Text
  hint : Text
deriving DecidableEq, Repr

namespace Diagnosis

/-- The report on one line: code, path, message and hint, empty parts left out. -/
def format (diagnosis : Diagnosis) : Text :=
  let parts := ["[" ++ diagnosis.code ++ "]", diagnosis.path, diagnosis.message] ++
    (if diagnosis.hint = [] then [] else ["(" ++ diagnosis.hint ++ ")"])
  Text.join " " (parts.filter (· ≠ []))

def invalidJsonMessage : Text := "Invalid JSON."

def invalidJson : Diagnosis :=
  ⟨Code.invalidJson.name, "root", [], invalidJsonMessage, []⟩

def ofViolation (violation : Violation) : Diagnosis :=
  ⟨Code.invalidDocument.name, violation.location, violation.field, violation.message,
    violation.hint⟩

end Diagnosis

namespace Document

def parse (source : Source) : Option Json :=
  match source with
  | .text text => (Json.read .strict text).toOption
  | .bytes bytes => do
    let (encoding, content) := Encoding.detect bytes
    let text ← encoding.decode content
    (Json.read .strict text).toOption
  | .none => none

def load (source : Source) : Except Rejection Json :=
  match parse source with
  | none => .error .notJson
  | some document => do
    validate document
    return document

/-- The first error in a document, if there is one.  Only a number beyond the
range of floats keeps a document from being diagnosed. -/
def diagnose (source : Source) : Except RangeError (Option Diagnosis) :=
  match load source with
  | .ok _ => .ok none
  | .error .notJson => .ok (some .invalidJson)
  | .error (.violation violation) => .ok (some (.ofViolation violation))
  | .error (.range error) => .error error

/-- Is a document valid, and if it is not, what is wrong with it? -/
def verdict (source : Source) : Except RangeError (Bool × Text) := do
  match ← diagnose source with
  | none => return (true, [])
  | some diagnosis => return (false, diagnosis.message)

end Document

end Formulary
