import Formulary.Example

namespace Formulary.CommandLine

/-! # Commands and switches

The three commands, the switches that each of them understands, and their
usage and help texts.
-/

inductive Switch where
  | help
  | version
  | sample
  | root
  | config
  | verbose
  | dataDirectory
  | json
deriving DecidableEq, Repr

namespace Switch

/-- The spellings of a switch, the short one first. -/
def names : Switch → List Text
  | help => ["-h", "--help"]
  | version => ["--version"]
  | sample => ["-e", "--example"]
  | root => ["-r", "--root"]
  | config => ["-c", "--config"]
  | verbose => ["-v", "--verbose"]
  | dataDirectory => ["-d", "--data-dir"]
  | json => ["--json"]

def title (switch : Switch) : Text :=
  Text.join "/" switch.names

def takesValue : Switch → Bool
  | sample | root | config | dataDirectory => true
  | help | version | verbose | json => false

end Switch

inductive Command where
  | validate
  | run
  | examples
deriving DecidableEq, Repr

namespace Command

def all : List Command := [validate, run, examples]

def name : Command → Text
  | validate => "validate"
  | run => "run"
  | examples => "examples"

def ofName? (name : Text) : Option Command :=
  all.find? fun command => command.name = name

def switches : Command → List Switch
  | validate => [.help, .sample, .root, .config, .verbose]
  | run => [.help, .sample, .root, .config, .verbose, .dataDirectory, .json]
  | examples => [.help]

def takesFile : Command → Bool
  | validate | run => true
  | examples => false

end Command

/-- What switches and messages belong to: the program as a whole, or one command. -/
inductive Scope where
  | program
  | command (command : Command)
deriving DecidableEq, Repr

namespace Scope

def programName : Text := "secexpr"

def version : Text := programName ++ " 0.1.0"

def name : Scope → Text
  | program => programName
  | command found => programName ++ " " ++ found.name

def switches : Scope → List Switch
  | program => [.help, .version]
  | command found => found.switches

def spellings (scope : Scope) : List (Text × Switch) :=
  scope.switches.flatMap fun switch => switch.names.map fun name => (name, switch)

def lines (lines : List String) : Text :=
  lines.flatMap fun line => Text.ofString line ++ "\n"

/-- The lines that say in short how to call the program or a command. -/
def usage : Scope → Text
  | program => lines
      ["usage: secexpr [-h] [--version] \x7bvalidate,run,examples\x7d ..."]
  | command .validate => lines
      ["usage: secexpr validate [-h]",
        "                        [-e \x7bmultiply,divide,nested,invalid-json,invalid-dsl,missing-security\x7d]",
        "                        [-r ROOT] [-c CONFIG] [-v]",
        "                        [file]"]
  | command .run => lines
      ["usage: secexpr run [-h]",
        "                   [-e \x7bmultiply,divide,nested,invalid-json,invalid-dsl,missing-security\x7d]",
        "                   [-r ROOT] [-c CONFIG] [-v] [-d DATA_DIR] [--json]",
        "                   [file]"]
  | command .examples => lines
      ["usage: secexpr examples [-h]"]

def sourceHelp : List String :=
  ["",
    "positional arguments:",
    "  file                  DSL file path, or - for stdin",
    "",
    "options:",
    "  -h, --help            show this help message and exit",
    "  -e \x7bmultiply,divide,nested,invalid-json,invalid-dsl,missing-security\x7d, --example \x7bmultiply,divide,nested,invalid-json,invalid-dsl,missing-security\x7d",
    "                        Use a built-in example document",
    "  -r ROOT, --root ROOT  Directory searched for secexpr.yaml",
    "  -c CONFIG, --config CONFIG",
    "                        Explicit config file",
    "  -v, --verbose         Enable debug logging"]

def details : Scope → List String
  | program =>
      ["",
        ">_ SECEXPR",
        "     // arithmetic over security attributes",
        "",
        "SECEXPR expression validator and evaluator",
        "",
        "positional arguments:",
        "  \x7bvalidate,run,examples\x7d",
        "    validate            Validate a DSL document without executing it",
        "    run                 Validate and execute a DSL document",
        "    examples            List built-in example documents",
        "",
        "options:",
        "  -h, --help            show this help message and exit",
        "  --version             show program's version number and exit"]
  | command .validate => sourceHelp
  | command .run => sourceHelp ++
      ["  -d DATA_DIR, --data-dir DATA_DIR",
        "                        Directory holding securities.json, attributes.json and",
        "                        facts.json (default: bundled tables)",
        "  --json                Print the result as a JSON object"]
  | command .examples =>
      ["",
        "options:",
        "  -h, --help  show this help message and exit"]

def help (scope : Scope) : Text :=
  scope.usage ++ lines (details scope)

end Scope

end Formulary.CommandLine
