import Formulary.Path
import Formulary.Text.Encoding
import Formulary.Text.Literal

namespace Formulary

/-! # Files

What is found under a path, which paths have a name at all, how the text of a
file is read, and the wording of what can go wrong with it.
-/

inductive Entry where
  | file (content : List UInt8)
  | directory
  /-- Nothing has this name. -/
  | missing
  /-- A part of the path that would have to be a directory is a file. -/
  | notDirectory
  /-- A part of the path is longer than names can be. -/
  | nameTooLong
deriving DecidableEq, Repr, Inhabited

inductive FileError where
  | missing (path : Path)
  | isDirectory (path : Path)
  | notDirectory (path : Path)
  | nameTooLong (path : Path)
deriving DecidableEq, Repr

namespace FileError

def message : FileError → Text
  | missing path => "[Errno 2] No such file or directory: " ++ Text.literal path.text
  | isDirectory path => "[Errno 21] Is a directory: " ++ Text.literal path.text
  | notDirectory path => "[Errno 20] Not a directory: " ++ Text.literal path.text
  | nameTooLong path => "[Errno 36] File name too long: " ++ Text.literal path.text

end FileError

namespace Entry

def exists? : Entry → Bool
  | file _ | directory => true
  | missing | notDirectory | nameTooLong => false

/-- The content of a file, which is named by its path in errors. -/
def content (path : Path) : Entry → Except FileError (List UInt8)
  | file content => .ok content
  | directory => .error (.isDirectory path)
  | missing => .error (.missing path)
  | notDirectory => .error (.notDirectory path)
  | nameTooLong => .error (.nameTooLong path)

end Entry

/-! ## Names of files

A file system knows names by their bytes.  Unpaired surrogates stand for no
bytes, but for those that the second half of the byte range is kept as.
-/

inductive NameFault where
  /-- Surrogates that stand for no bytes, from one place to another. -/
  | surrogates (first : CodePoint) (start last : Nat)
  /-- A name cannot hold the code point zero. -/
  | zero
deriving DecidableEq, Repr

namespace NameFault

def message : NameFault → Text
  | surrogates first start last =>
    let found : Text :=
      if start = last then
        "character '\\u" ++ Numeral.hex 4 first.value ++ "' in position " ++ Numeral.ofNat start
      else
        "characters in position " ++ Numeral.ofNat start ++ "-" ++ Numeral.ofNat last
    "'utf-8' codec can't encode " ++ found ++ ": surrogates not allowed"
  | zero => "embedded null byte"

end NameFault

namespace Path

def nameLimit : Nat := 255

def isLongName (name : Text) : Bool :=
  nameLimit < (Encoding.utf8.encode name).length

/-- Is the code point a surrogate, other than those that stand for single bytes? -/
def isForeign (point : CodePoint) : Bool :=
  point.isSurrogate && !(0xDC80 ≤ point.value && point.value ≤ 0xDCFF)

def fault? (path : Path) : Option NameFault :=
  let text := path.text
  match text.dropWhile fun point => !isForeign point with
  | first :: rest =>
    let start := text.length - (rest.length + 1)
    some (.surrogates first start (start + (rest.takeWhile CodePoint.isSurrogate).length))
  | [] => if text.contains (.scalar '\x00') then some .zero else none

end Path

namespace Text

/-- A text whose lines all end in a line feed; a line feed right after a
carriage return has been counted already. -/
def unifyLinesAfter (afterReturn : Bool) : Text → Text
  | [] => []
  | point :: rest =>
    if point = .scalar '\r' then .scalar '\n' :: unifyLinesAfter true rest
    else if point = .scalar '\n' ∧ afterReturn then unifyLinesAfter false rest
    else point :: unifyLinesAfter false rest

/-- Every line end becomes a line feed: a carriage return, alone or with a line
feed after it, is one line end. -/
def unifyLines (text : Text) : Text :=
  unifyLinesAfter false text

/-- The text of a file: UTF-8 without surrogates, its line ends made uniform. -/
def ofFile? (content : List UInt8) : Option Text :=
  (Encoding.decodeUtf8 false content).map unifyLines

end Text

end Formulary
