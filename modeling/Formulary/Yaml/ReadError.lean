import Formulary.Fatal

namespace Formulary.Yaml

/-! # Errors in settings

A text of settings either is not of the form of settings, which is reported
without its place, or holds a scalar that ends the program.
-/

inductive ReadError where
  /-- The text is not of the form of settings. -/
  | malformed
  | fatal (error : Fatal)
deriving DecidableEq, Repr

def orMalformed {α : Type} : Option α → Except ReadError α
  | some found => .ok found
  | none => .error .malformed

end Formulary.Yaml
