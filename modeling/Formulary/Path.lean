import Formulary.Text

namespace Formulary

/-! # Paths

A path is kept in its normal spelling: parts that are empty or a single dot
are dropped, and parts of two dots stay, since only resolving a path may
remove them.  Exactly two slashes at the front are kept apart from any other
number of them.
-/

inductive Anchor where
  | relative
  | root
  | doubleRoot
deriving DecidableEq, Repr

structure Path where
  anchor : Anchor
  parts : List Text
deriving DecidableEq, Repr

namespace Path

def slash : CodePoint := .scalar '/'

def anchorOf (text : Text) : Anchor :=
  match (text.takeWhile (· = slash)).length with
  | 0 => .relative
  | 2 => .doubleRoot
  | _ => .root

def ofText (text : Text) : Path :=
  ⟨anchorOf text, (Text.splitAt slash text).filter fun part => part ≠ [] ∧ part ≠ "."⟩

def here : Path := ⟨.relative, []⟩

def isAbsolute (path : Path) : Bool := path.anchor ≠ .relative

/-- The text of a path; the empty path is a dot. -/
def text (path : Path) : Text :=
  let joined := Text.join [slash] path.parts
  match path.anchor with
  | .relative => if path.parts = [] then "." else joined
  | .root => slash :: joined
  | .doubleRoot => slash :: slash :: joined

/-- A path as seen from a directory: an absolute path stays what it is. -/
def under (directory path : Path) : Path :=
  if path.isAbsolute then path else ⟨directory.anchor, directory.parts ++ path.parts⟩

def child (directory : Path) (name : Text) : Path :=
  ⟨directory.anchor, directory.parts ++ [name]⟩

def parent (path : Path) : Path :=
  ⟨path.anchor, path.parts.dropLast⟩

def name (path : Path) : Text :=
  path.parts.getLast?.getD []

/-- Walk along parts from a directory; two dots lead back up. -/
def walk (reached : List Text) (part : Text) : List Text :=
  if part = ".." then reached.dropLast else reached ++ [part]

/-- The absolute path, free of double dots, of a path seen from a directory. -/
def resolve (path directory : Path) : Path :=
  ⟨.root, (directory.under path).parts.foldl walk []⟩

end Path

end Formulary
