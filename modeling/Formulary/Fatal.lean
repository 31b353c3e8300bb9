import Formulary.Files
import Formulary.Number

namespace Formulary

/-! # Fatal errors

Errors that end the program without a report of its own.  Everything else that
can go wrong is a value of the part of the program that finds it.
-/

inductive Fatal where
  | range (error : RangeError)
  /-- A file is not UTF-8. -/
  | undecodable
  /-- Containers in a table or in the configuration file are nested too deeply. -/
  | nestedTooDeeply
  /-- An integer that is read has more digits than the limit. -/
  | longNumeral (digits : Nat)
  /-- An integer that is written has more digits than the limit. -/
  | unprintable
  /-- The configuration file or the directory of tables cannot be looked at. -/
  | file (error : FileError)
  /-- A path has no name that a file system could know. -/
  | name (fault : NameFault)
  /-- A scalar in the configuration file is not of the form that its tag requires. -/
  | badScalar (message : Text)
  /-- An escape in the configuration file names no code point. -/
  | noCodePoint
  /-- An escape in the configuration file is too large a number altogether. -/
  | hugeCodePoint
  /-- A scalar that is tagged as a truth value is none. -/
  | badTruth
  /-- A scalar that is tagged as a date is none. -/
  | badDate
  /-- A mapping that is tagged as a date. -/
  | mappingAsDate
  /-- A scalar that is tagged as a number is empty. -/
  | emptyNumeral
  /-- Unknown keys of the configuration file have no common order. -/
  | unorderedKeys
  /-- The switch for the root directory has lost its value. -/
  | blankRoot
  /-- The switch for a built-in document has lost its value. -/
  | blankSample
deriving DecidableEq, Repr

namespace Fatal

private def digitLimitMessage (between : Text) : Text :=
  "Exceeds the limit (4300 digits) for integer string conversion" ++ between ++
    "; use sys.set_int_max_str_digits() to increase the limit"

def message? : Fatal → Option Text
  | range error => some error.message
  | longNumeral digits =>
    some (digitLimitMessage (": value has " ++ Numeral.ofNat digits ++ " digits"))
  | unprintable => some (digitLimitMessage [])
  | file error => some error.message
  | name fault => some fault.message
  | badScalar message => some message
  | noCodePoint => some "chr() arg not in range(0x110000)"
  | hugeCodePoint => some "Python int too large to convert to C int"
  | emptyNumeral => some "string index out of range"
  | undecodable | nestedTooDeeply | badTruth | badDate | mappingAsDate | unorderedKeys
  | blankRoot | blankSample => none

/-- Only a path that has a name can be looked at. -/
def checkName (path : Path) : Except Fatal Unit :=
  match path.fault? with
  | some fault => .error (.name fault)
  | none => .ok ()

end Fatal

end Formulary
