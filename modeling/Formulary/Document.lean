import Formulary.Json.Printer
import Formulary.Operator

namespace Formulary

/-! # Documents

A document is an object with two members: the symbol of a security, and an
expression.  An expression is an object with three members: an operator and
two operands.  An operand is a number, the name of an attribute, or again an
expression.

This module names the members and what can be wrong with them.  Each violation
keeps the value that it is about, and its wording is made from that value.
-/

/-- The members of an expression, in the order in which they are looked at. -/
inductive Member where
  | operator
  | left
  | right
deriving DecidableEq, Repr

namespace Member

def name : Member → Text
  | operator => "fn"
  | left => "a"
  | right => "b"

def all : List Member := [operator, left, right]

end Member

namespace Document

def securityName : Text := "security"

def expressionName : Text := "expression"

def names : List Text := [securityName, expressionName]

def expressionNames : List Text := Member.all.map Member.name

/-- Expressions are followed this deep, and so are the values that a message
about them shows. -/
def depthLimit : Nat := 495

end Document

inductive Violation where
  /-- The symbol of the security is missing, empty or no string. -/
  | security
  /-- The expression is missing or no object. -/
  | expression
  /-- The document has a member beyond the two; the least name of such a member. -/
  | extraField (name : Option Text)
  /-- A member of an expression is missing, or it is nothing, zero, or empty. -/
  | missingMember (member : Member) (node : Fields)
  /-- An expression has a member beyond the three; the least name of such a member. -/
  | extraMember (name : Option Text) (node : Fields)
  /-- The operator of an expression is none of the four. -/
  | unknownOperator (found : Json)
  /-- An operand is neither number nor string nor object. -/
  | badOperand (side : Member) (found : Json)
  /-- The expression, or a value to be shown, is nested too deeply. -/
  | nestedTooDeeply
deriving Repr

namespace Violation

def location : Violation → Text
  | security | expression | extraField _ => "root"
  | _ => Document.expressionName

def field : Violation → Text
  | security => Document.securityName
  | expression | nestedTooDeeply => Document.expressionName
  | extraField name? | extraMember name? _ => name?.getD []
  | missingMember member _ => member.name
  | unknownOperator _ => Member.operator.name
  | badOperand side _ => side.name

def message : Violation → Text
  | security => "\"security\" field is missing or not a valid type in root."
  | expression => "\"expression\" field is missing or not a valid type in root."
  | extraField _ => "Too many fields in root."
  | missingMember _ node => "Missing field in \"expression\": " ++ Json.dump 0 (.object node)
  | extraMember _ node => "Too many fields in \"expression\": " ++ Json.dump 0 (.object node)
  | unknownOperator found => "\"fn\" field is not a valid type: " ++ found.inSentence
  | badOperand side found => side.name ++ " field is not a valid type: " ++ found.inSentence
  | nestedTooDeeply => "Too many nested levels in \"expression\"."

/-- What would have been right, where that can be said in a few words. -/
def hint : Violation → Text
  | unknownOperator _ => "expected one of: * + - /"
  | badOperand _ _ => "expected a number, an attribute name or a nested expression"
  | _ => []

/-- The nesting of the value that the wording shows. -/
def shownNesting : Violation → Nat
  | missingMember _ node | extraMember _ node => (Json.object node).nesting
  | unknownOperator found | badOperand _ found => found.arrayNesting
  | _ => 0

end Violation

inductive Rejection where
  /-- The text is not JSON, or it is null. -/
  | notJson
  | violation (violation : Violation)
  /-- A number that has to be looked at is beyond the range of floats. -/
  | range (error : RangeError)
deriving Repr

end Formulary
