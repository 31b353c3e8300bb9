import Formulary.CommandLine.Switch
import Formulary.Path
import Formulary.Text.DecimalDigit
import Formulary.Text.Literal

namespace Formulary.CommandLine

/-! # Arguments

The words behind the name of the program, in three steps: each word is told
apart as a switch or not, then switches and the name of a file are taken in
order, and last it is checked that nothing is missing or left over.

A long switch may be shortened as long as it stays the only one that begins
so.  Its value follows as the next word, or behind an equals sign; that of a
short switch may also follow directly, and short switches without values may
share one word.  A value that is attached to its switch and consists of two
dashes is dropped, which leaves the switch with no value.
-/

inductive Word where
  /-- Two dashes: no switches from here on. -/
  | separator
  | plain (text : Text)
  /-- A switch, with the text that stands behind it in the same word. -/
  | switch (switch : Switch) (short : Bool) (attached : Option Text)
  /-- A word that looks like a switch and is none. -/
  | unknown (text : Text)
deriving DecidableEq, Repr

inductive Misuse where
  | ambiguous (word : Text) (candidates : List Text)
  | ignoredValue (switch : Switch) (value : Text)
  | valueExpected (switch : Switch)
  | unknownExample (found : Text)
  | unknownCommand (found : Text)
  | exampleBesideFile
  | fileBesideExample
  | commandMissing
  | sourceMissing
  | unrecognized (words : List Text)
deriving DecidableEq, Repr

namespace Misuse

def choices (names : List Text) : Text :=
  Text.join ", " (names.map Text.literal)

def notAmong (title found : Text) (names : List Text) : Text :=
  "argument " ++ title ++ ": invalid choice: " ++ Text.literal found ++ " (choose from " ++
    choices names ++ ")"

def message : Misuse → Text
  | ambiguous word candidates =>
    "ambiguous option: " ++ word ++ " could match " ++ Text.join ", " candidates
  | ignoredValue switch value =>
    "argument " ++ switch.title ++ ": ignored explicit argument " ++ Text.literal value
  | valueExpected switch => "argument " ++ switch.title ++ ": expected one argument"
  | unknownExample found =>
    notAmong Switch.sample.title found (Example.all.map Example.id)
  | unknownCommand found => notAmong "command" found (Command.all.map Command.name)
  | exampleBesideFile =>
    "argument " ++ Switch.sample.title ++ ": not allowed with argument file"
  | fileBesideExample =>
    "argument file: not allowed with argument " ++ Switch.sample.title
  | commandMissing => "the following arguments are required: command"
  | sourceMissing =>
    "one of the arguments file " ++ Switch.sample.title ++ " is required"
  | unrecognized words => "unrecognized arguments: " ++ Text.join " " words

end Misuse

/-- What the program does instead of carrying out a command. -/
inductive Exit where
  | help (scope : Scope)
  | version
  | misuse (scope : Scope) (misuse : Misuse)
deriving DecidableEq, Repr

/-! ## Telling words apart -/

def dash : CodePoint := .scalar '-'

def splitSign (word : Text) : Text × Option Text :=
  let name := word.takeWhile (· ≠ .scalar '=')
  match word.drop name.length with
  | [] => (name, none)
  | _ :: value => (name, some value)

/-- Has a word the form of a negative number, in digits of any script?  A line
feed may follow it. -/
def isNegativeNumber (word : Text) : Bool :=
  match word with
  | .scalar '-' :: unsigned =>
    let (whole, behind) := Text.takeDecimalDigits unsigned
    let (digits, remaining) :=
      match behind with
      | .scalar '.' :: fraction => Text.takeDecimalDigits fraction
      | _ => (whole, behind)
    digits ≠ [] && (remaining = [] || remaining = "\n")
  | _ => false

/-- The switches that a word which starts with dashes may stand for. -/
def candidates (scope : Scope) (word : Text) : List (Text × Word) :=
  match word with
  | .scalar '-' :: .scalar '-' :: _ =>
    let (name, value) := splitSign word
    scope.spellings.filterMap fun (spelling, switch) =>
      if Text.startsWith name spelling then
        some (spelling, .switch switch false value)
      else none
  | first :: second :: rest =>
    scope.spellings.filterMap fun (spelling, switch) =>
      if spelling = [first, second] then
        some (spelling, .switch switch true (some rest))
      else none
  | _ => []

def isShort (spelling : Text) : Bool :=
  spelling[1]? ≠ some dash

/-- Tell what a word is, the separator aside. -/
def classify (scope : Scope) (word : Text) : Except Misuse Word :=
  if word.head? ≠ some dash then .ok (.plain word)
  else
    match scope.spellings.lookup word with
    | some switch => .ok (.switch switch (isShort word) none)
    | none =>
      if word.length = 1 then .ok (.plain word)
      else
        let (name, value) := splitSign word
        match value, scope.spellings.lookup name with
        | some value, some switch => .ok (.switch switch (isShort name) (some value))
        | _, _ =>
          match candidates scope word with
          | [(_, found)] => .ok found
          | [] =>
            if isNegativeNumber word || word.contains (.scalar ' ') then .ok (.plain word)
            else .ok (.unknown word)
          | several => .error (.ambiguous word (several.map Prod.fst))

/-- Tell what each word is.  Behind two dashes every word is plain. -/
def classifyAll (scope : Scope) : List Text → Except Misuse (List (Text × Word))
  | [] => .ok []
  | word :: rest =>
    if word = "--" then
      .ok ((word, .separator) :: rest.map fun word => (word, .plain word))
    else do
      let found ← classify scope word
      let following ← classifyAll scope rest
      return (word, found) :: following

/-! ## Taking switches -/

abbrev Argument := Option Text

/-- The argument that an attached text gives. -/
def attachedArgument (text : Text) : Argument :=
  if text = "--" then none else some text

/-- The switches in one word with their arguments, and whether the next word
was used up as a value. -/
structure Group where
  switches : List (Switch × Argument)
  usesNext : Bool

/-- Take the switches that share a word.  `next` is the next word if it may be a value. -/
def takeGroup (scope : Scope) (fuel : Nat) (switch : Switch) (short : Bool)
    (attached : Option Text) (next : Option Text) : Except Misuse Group :=
  match attached with
  | none =>
    if switch.takesValue then
      match next with
      | some value => .ok ⟨[(switch, some value)], true⟩
      | none => .error (.valueExpected switch)
    else .ok ⟨[(switch, none)], false⟩
  | some text =>
    if switch.takesValue then .ok ⟨[(switch, attachedArgument text)], false⟩
    else
      match fuel, text with
      | fuel + 1, letter :: rest =>
        match short, scope.spellings.lookup [dash, letter] with
        | true, some following => do
          let group ←
            takeGroup scope fuel following true (if rest = [] then none else some rest) next
          return { group with switches := (switch, none) :: group.switches }
        | _, _ => .error (.ignoredValue switch text)
      | _, _ => .error (.ignoredValue switch text)

/-- What has become of a switch that takes a value. -/
inductive Setting (α : Type) where
  | absent
  /-- The switch is there, but its value has been dropped. -/
  | blank
  | value (value : α)
deriving DecidableEq, Repr

namespace Setting

variable {α : Type}

def ofArgument (read : Text → α) : Argument → Setting α
  | none => blank
  | some text => value (read text)

def value? : Setting α → Option α
  | value found => some found
  | absent | blank => none

def isAbsent : Setting α → Bool
  | absent => true
  | blank | value _ => false

end Setting

/-- What the words of a command have given so far. -/
structure Given where
  file : Option Text
  sample : Setting Example
  root : Setting Path
  config : Setting Path
  verbose : Bool
  dataDirectory : Setting Path
  json : Bool
deriving DecidableEq, Repr

namespace Given

def start : Given := ⟨none, .absent, .absent, .absent, false, .absent, false⟩

def readSample (scope : Scope) : Argument → Except Exit (Setting Example)
  | none => .ok .blank
  | some id =>
    match Example.ofId? id with
    | some found => .ok (.value found)
    | none => .error (.misuse scope (.unknownExample id))

def take (scope : Scope) (given : Given) : Switch × Argument → Except Exit Given
  | (.help, _) => .error (.help scope)
  | (.version, _) => .error .version
  | (.sample, argument) => do
    let sample ← readSample scope argument
    if given.file.isSome then .error (.misuse scope .exampleBesideFile)
    else return { given with sample := sample }
  | (.root, argument) => .ok { given with root := .ofArgument Path.ofText argument }
  | (.config, argument) => .ok { given with config := .ofArgument Path.ofText argument }
  | (.verbose, _) => .ok { given with verbose := true }
  | (.dataDirectory, argument) =>
    .ok { given with dataDirectory := .ofArgument Path.ofText argument }
  | (.json, _) => .ok { given with json := true }

def takeFile (scope : Scope) (given : Given) (name : Text) : Except Exit Given :=
  if given.sample.isAbsent then .ok { given with file := some name }
  else .error (.misuse scope .fileBesideExample)

end Given

def nextValue : List (Text × Word) → Option Text
  | (_, .plain text) :: _ => some text
  | _ => none

/-- Take the words of a command in order.  `fileOpen` tells whether the name of
the file may still come.  Words that are left over are returned. -/
def takeWords (scope : Scope) (fuel : Nat) (fileOpen : Bool) (given : Given) :
    List (Text × Word) → Except Exit (Given × List Text)
  | [] => .ok (given, [])
  | (raw, word) :: rest =>
    match fuel with
    | 0 => .ok (given, [])
    | fuel + 1 =>
      match word with
      | .switch switch short attached => do
        let group ← (takeGroup scope raw.length switch short attached (nextValue rest)).mapError
          (Exit.misuse scope)
        let given ← group.switches.foldlM (Given.take scope) given
        takeWords scope fuel fileOpen given (if group.usesNext then rest.drop 1 else rest)
      | .unknown _ => do
        let (given, extra) ← takeWords scope fuel fileOpen given rest
        return (given, raw :: extra)
      | .separator =>
        if fileOpen then
          match rest with
          | (_, .plain text) :: rest => do
            let given ← given.takeFile scope text
            takeWords scope fuel false given rest
          | _ => takeWords scope fuel false given rest
        else do
          let (given, extra) ← takeWords scope fuel fileOpen given rest
          return (given, raw :: extra)
      | .plain text =>
        if fileOpen then do
          let given ← given.takeFile scope text
          let rest :=
            match rest with
            | (_, .separator) :: behind => behind
            | _ => rest
          takeWords scope fuel false given rest
        else do
          let (given, extra) ← takeWords scope fuel fileOpen given rest
          return (given, raw :: extra)

/-- The words of a command: what they give, and what is left over. -/
def readCommand (command : Command) (words : List Text) : Except Exit (Given × List Text) := do
  let scope := Scope.command command
  let words ← (classifyAll scope words).mapError (Exit.misuse scope)
  let (given, extra) ← takeWords scope (words.length + 1) command.takesFile .start words
  if command.takesFile && given.file.isNone && given.sample.isAbsent then
    .error (.misuse scope .sourceMissing)
  else return (given, extra)

structure Invocation where
  command : Command
  given : Given
deriving DecidableEq, Repr

/-- Take the words up to the command, and the words of the command. -/
def takeCommand (fuel : Nat) (extra : List Text) :
    List (Text × Word) → Except Exit (Invocation × List Text)
  | [] => .error (.misuse .program .commandMissing)
  | (raw, word) :: rest =>
    match fuel with
    | 0 => .error (.misuse .program .commandMissing)
    | fuel + 1 =>
      match word with
      | .switch switch short attached => do
        let group ← (takeGroup .program raw.length switch short attached none).mapError
          (Exit.misuse .program)
        let _ ← group.switches.foldlM (Given.take .program) Given.start
        takeCommand fuel extra rest
      | .unknown _ => takeCommand fuel (extra ++ [raw]) rest
      | .separator =>
        match rest with
        | [] => .error (.misuse .program .commandMissing)
        | _ => .error (.misuse .program (.unknownCommand raw))
      | .plain name =>
        match Command.ofName? name with
        | none => .error (.misuse .program (.unknownCommand name))
        | some command => do
          let (given, further) ← readCommand command (rest.map Prod.fst)
          return (⟨command, given⟩, extra ++ further)

def read (words : List Text) : Except Exit Invocation := do
  let classified ← (classifyAll .program words).mapError (Exit.misuse .program)
  let (invocation, extra) ← takeCommand (classified.length + 1) [] classified
  if extra = [] then return invocation
  else .error (.misuse .program (.unrecognized extra))

end Formulary.CommandLine
