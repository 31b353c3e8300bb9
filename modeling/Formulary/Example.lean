import Formulary.Text

namespace Formulary

/-! # Built-in documents

Documents to try the program with: valid ones, and one for each way to fail.
-/

inductive Example where
  | multiply
  | divide
  | nested
  | invalidJson
  | invalidDocument
  | missingSecurity
deriving DecidableEq, Repr

namespace Example

def all : List Example :=
  [multiply, divide, nested, invalidJson, invalidDocument, missingSecurity]

def id : Example → Text
  | multiply => "multiply"
  | divide => "divide"
  | nested => "nested"
  | invalidJson => "invalid-json"
  | invalidDocument => "invalid-dsl"
  | missingSecurity => "missing-security"

def label : Example → Text
  | multiply => "Simple multiplication"
  | divide => "Simple division"
  | nested => "Nested expression"
  | invalidJson => "Invalid JSON"
  | invalidDocument => "Invalid DSL"
  | missingSecurity => "Missing security"

def lines (lines : List String) : Text :=
  Text.join "\n" (lines.map Text.ofString)

def document : Example → Text
  | multiply => lines
      ["\x7b",
        "  \"expression\": \x7b\"fn\": \"*\", \"a\": \"sales\", \"b\": 2\x7d,",
        "  \"security\": \"ABC\"",
        "\x7d"]
  | divide => lines
      ["\x7b",
        "  \"expression\": \x7b\"fn\": \"/\", \"a\": \"price\", \"b\": \"eps\"\x7d,",
        "  \"security\": \"BCD\"",
        "\x7d"]
  | nested => lines
      ["\x7b",
        "  \"expression\": \x7b",
        "    \"fn\": \"-\",",
        "    \"a\": \x7b\"fn\": \"-\", \"a\": \"eps\", \"b\": \"shares\"\x7d,",
        "    \"b\": \x7b\"fn\": \"-\", \"a\": \"assets\", \"b\": \"liabilities\"\x7d",
        "  \x7d,",
        "  \"security\": \"CDE\"",
        "\x7d"]
  | invalidJson => lines
      ["\x7b",
        "  \"expression\": \x7b\"fn\": \"+\", \"a\": \"price\", \"b\": \"eps\"\x7d,",
        "  \"security\": \"BCD\"",
        ""]
  | invalidDocument => lines
      ["\x7b",
        "  \"wrong\": 123,",
        "  \"security\": \"BCD\"",
        "\x7d"]
  | missingSecurity => lines
      ["\x7b",
        "  \"expression\": \x7b\"fn\": \"*\", \"a\": \"sales\", \"b\": 2\x7d,",
        "  \"security\": \"ZZZ\"",
        "\x7d"]

def ofId? (id : Text) : Option Example :=
  all.find? fun found => found.id = id

/-- The line of a document in a listing: its name, filled up to a width, and its label. -/
def line (width : Nat) (found : Example) : Text :=
  let padding : Text := List.replicate (width - found.id.length) (.scalar ' ')
  found.id ++ padding ++ "  " ++ found.label ++ "\n"

/-- A line for each document, the names filled up to one width. -/
def listing : Text :=
  all.flatMap (line ((all.map fun found => found.id.length).foldl max 0))

end Example

end Formulary
