import Formulary.Text.UpperCase

namespace Formulary

/-! # Log levels

How much of what happens is reported, from everything down to errors only.
-/

inductive LogLevel where
  | debug
  | info
  | warning
  | error
deriving DecidableEq, Repr

namespace LogLevel

def all : List LogLevel := [debug, error, info, warning]

def name : LogLevel → Text
  | debug => "DEBUG"
  | info => "INFO"
  | warning => "WARNING"
  | error => "ERROR"

/-- Levels are ordered by how much is left out. -/
def rank : LogLevel → Nat
  | debug => 0
  | info => 1
  | warning => 2
  | error => 3

def admits (set message : LogLevel) : Bool :=
  set.rank ≤ message.rank

/-- The level that a text names, the case of its letters aside. -/
def ofText? (text : Text) : Option LogLevel :=
  let upper := Text.upper text
  all.find? fun level => upper = level.name

end LogLevel

end Formulary
