import Formulary.Yaml.QuotedScalar
import Formulary.Yaml.BlockScalar
import Formulary.Text.Encoding
import Formulary.Number

namespace Formulary.Yaml

/-! # Tokens

A text of settings is cut into tokens from left to right.  Indentation shows
as tokens that open and close blocks.  Whether a scalar is the key of a
mapping shows only at the colon behind it, so a place is kept in front of
everything that may turn out to be a key.

A text that cannot be cut to its end gives the tokens in front of the failure,
up to the first that might still have become a key.  The failure stands behind
them, so it counts only if nothing is wrong with those tokens themselves.
-/

inductive Directive where
  | version (major minor : Nat)
  | tagHandle (handle lead : Text)
  | reserved
deriving DecidableEq, Repr

inductive Token where
  | directive (directive : Directive)
  | documentStart
  | documentEnd
  | blockSequenceStart
  | blockMappingStart
  | blockEnd
  | flowSequenceStart
  | flowSequenceEnd
  | flowMappingStart
  | flowMappingEnd
  | blockEntry
  | flowEntry
  | key
  | value
  | alias (name : Text)
  | anchor (name : Text)
  | tag (handle : Option Text) (suffix : Text)
  | scalar (text : Text) (plain : Bool)
  /-- A place where a key may start. -/
  | place (number : Nat)
  /-- The text cannot be cut any further. -/
  | failed (error : ReadError)
deriving DecidableEq, Repr

/-! ## Directives, anchors and tags -/

def isUriPoint (point : CodePoint) : Bool :=
  point.isAlphanumeric || (Text.ofString "-;/?:@&=+$,_.!~*'()[]").contains point

/-- The bytes that a run of percent escapes writes, and the place behind it. -/
def uriBytes (fuel : Nat) (bytes : List UInt8) (cursor : Cursor) :
    Option (List UInt8 × Cursor) :=
  match fuel with
  | 0 => none
  | fuel + 1 =>
    if cursor.sees '%' then do
      let high ← (← cursor.peekAt 1).hexDigit?
      let low ← (← cursor.peekAt 2).hexDigit?
      uriBytes fuel (bytes ++ [UInt8.ofNat (high.val * 16 + low.val)]) (cursor.advanceBy 3)
    else some (bytes, cursor)

def uriText (fuel : Nat) (taken : Text) (cursor : Cursor) : Option (Text × Cursor) :=
  match fuel with
  | 0 => none
  | fuel + 1 =>
    match cursor.takeWhile isUriPoint with
    | ([], _) =>
      if cursor.sees '%' then do
        let (bytes, behind) ← uriBytes fuel [] cursor
        let text ← Encoding.decodeUtf8 false bytes
        uriText fuel (taken ++ text) behind
      else some (taken, cursor)
    | (run, behind) => uriText fuel (taken ++ run) behind

def uri (cursor : Cursor) : Option (Text × Cursor) := do
  let (text, behind) ← uriText (2 * cursor.rest.length + 2) [] cursor
  guard (text ≠ [])
  return (text, behind)

def tagHandle (cursor : Cursor) : Option (Text × Cursor) := do
  guard (cursor.sees '!')
  let next := cursor.advance
  if next.sees ' ' then return ("!", next)
  else
    let (name, behind) := next.takeWhile isNamePoint
    guard (behind.sees '!')
    return ("!" ++ name ++ "!", behind.advance)

/-- Is a tag or directive set off from what follows it? -/
def endsWord (cursor : Cursor) : Bool :=
  endsLine cursor.peek || cursor.sees ' '

def hasHandle (cursor : Cursor) : Bool :=
  let word := (cursor.advance.rest.takeWhile fun point => !(point = .scalar ' ' || isBreak point))
  word.contains (.scalar '!')

def tagToken (cursor : Cursor) : Option (Token × Cursor) := do
  let next := cursor.advance
  let (token, behind) ←
    if next.sees '<' then do
      let (suffix, behind) ← uri next.advance
      guard (behind.sees '>')
      pure (Token.tag none suffix, behind.advance)
    else if isGap next.peek then
      pure (Token.tag none "!", next)
    else if hasHandle cursor then do
      let (handle, behind) ← tagHandle cursor
      let (suffix, behind) ← uri behind
      pure (Token.tag (some handle) suffix, behind)
    else do
      let (suffix, behind) ← uri next
      pure (Token.tag (some "!") suffix, behind)
  guard (endsWord behind)
  return (token, behind)

def anchorName (cursor : Cursor) : Option (Text × Cursor) := do
  let (name, behind) := cursor.takeWhile isNamePoint
  guard (name ≠ [])
  guard (isGap behind.peek || (behind.peek.map (Text.ofString "?:,]\x7d%@`").contains).getD false)
  return (name, behind)

/-- A number of a version, which is subject to the limit of digits. -/
def versionNumber (cursor : Cursor) : Except ReadError (Nat × Cursor) :=
  let (digits, behind) := cursor.takeWhile fun point => point.digit?.isSome
  if digits = [] then .error .malformed
  else if Number.digitLimit < digits.length then .error (.fatal (.longNumeral digits.length))
  else .ok (Numeral.value (Numeral.takeDigits digits).1, behind)

/-- The handle and the lead that a directive sets, and the place behind them. -/
def handleDirective (cursor : Cursor) : Option (Directive × Cursor) := do
  let (handle, behind) ← tagHandle cursor.skipBlanks
  guard (behind.sees ' ')
  let (lead, behind) ← uri behind.skipBlanks
  guard (endsWord behind)
  return (.tagHandle handle lead, behind)

def versionDirective (cursor : Cursor) : Except ReadError (Directive × Cursor) := do
  let (major, behind) ← versionNumber cursor.skipBlanks
  if !behind.sees '.' then .error .malformed
  else
    let (minor, behind) ← versionNumber behind.advance
    if endsWord behind then return (.version major minor, behind) else .error .malformed

def directiveToken (cursor : Cursor) : Except ReadError (Token × Cursor) := do
  let (name, behind) := cursor.takeWhile isNamePoint
  if name = [] ∨ !endsWord behind then .error .malformed
  else
    let (directive, behind) ←
      if name = "YAML" then versionDirective behind
      else if name = "TAG" then orMalformed (handleDirective behind)
      else pure (Directive.reserved, behind.skipLine)
    let next ← orMalformed (ignoredLine behind)
    return (.directive directive, next)

/-! ## Cutting -/

structure PossibleKey where
  place : Nat
  /-- Nothing but a key can stand here. -/
  required : Bool
  index : Nat
  line : Nat
  column : Nat

/-- What has been cut, and what is known about what is being cut. -/
structure Cutter where
  cursor : Cursor
  /-- The tokens, newest first. -/
  tokens : List Token
  places : Nat
  /-- Places that a key starts at, and whether a mapping starts there as well. -/
  keyed : List (Nat × Bool)
  indent : Int
  outerIndents : List Int
  allowKey : Bool
  /-- The key that may have started on each level of brackets, innermost first. -/
  possible : List (Option PossibleKey)

namespace Cutter

def start (text : Text) : Cutter :=
  ⟨.start text, [], 0, [], -1, [], true, [none]⟩

def inFlow (cutter : Cutter) : Bool := 1 < cutter.possible.length

def emit (token : Token) (cutter : Cutter) : Cutter :=
  { cutter with tokens := token :: cutter.tokens }

def moveTo (cursor : Cursor) (cutter : Cutter) : Cutter :=
  { cutter with cursor := cursor }

def setAllowKey (allowKey : Bool) (cutter : Cutter) : Cutter :=
  { cutter with allowKey := allowKey }

/-- Forget the possible key on this level; one that is required must not be forgotten. -/
def forgetKey (cutter : Cutter) : Option Cutter :=
  match cutter.possible with
  | some key :: outer =>
    if key.required then none else some { cutter with possible := none :: outer }
  | _ => some cutter

/-- Note that a key may start at the cursor. -/
def noteKey (cutter : Cutter) : Option Cutter :=
  if cutter.allowKey then do
    let cutter ← cutter.forgetKey
    let cursor := cutter.cursor
    let required := !cutter.inFlow && cutter.indent = cursor.column
    let key : PossibleKey := ⟨cutter.places, required, cursor.index, cursor.line, cursor.column⟩
    return { cutter with
      tokens := .place cutter.places :: cutter.tokens
      places := cutter.places + 1
      possible := some key :: cutter.possible.drop 1 }
  else some cutter

/-- A key ends on its line, and soon. -/
def isStale (cursor : Cursor) (key : PossibleKey) : Bool :=
  key.line ≠ cursor.line || 1024 < cursor.index - key.index

def forgetStaleKeys (cutter : Cutter) : Option Cutter := do
  let possible ← cutter.possible.mapM fun
    | some key =>
      if isStale cutter.cursor key then if key.required then none else some none
      else some (some key)
    | none => some none
  return { cutter with possible := possible }

/-- Close the blocks that are indented beyond a column. -/
def closeBlocks (column : Int) (outer : List Int) (cutter : Cutter) : Cutter :=
  if cutter.indent ≤ column then { cutter with outerIndents := outer }
  else
    match outer with
    | [] => cutter
    | indent :: outer =>
      closeBlocks column outer
        { cutter with tokens := .blockEnd :: cutter.tokens, indent := indent }

def unindent (column : Int) (cutter : Cutter) : Cutter :=
  if cutter.inFlow then cutter else cutter.closeBlocks column cutter.outerIndents

/-- Indent to a column; tells whether that is further than before. -/
def indentTo (column : Nat) (cutter : Cutter) : Bool × Cutter :=
  if cutter.indent < column then
    (true, { cutter with
      indent := column
      outerIndents := cutter.indent :: cutter.outerIndents })
  else (false, cutter)

def openBlock (token : Token) (cutter : Cutter) : Cutter :=
  match cutter.indentTo cutter.cursor.column with
  | (true, cutter) => cutter.emit token
  | (false, cutter) => cutter

def skipGaps (fuel : Nat) (cutter : Cutter) : Cutter :=
  match fuel with
  | 0 => cutter
  | fuel + 1 =>
    let behind := cutter.cursor.skipBlanks
    let behind := if behind.sees '#' then behind.skipLine else behind
    match behind.lineBreak? with
    | some (_, next) =>
      skipGaps fuel ((cutter.moveTo next).setAllowKey (cutter.allowKey || !cutter.inFlow))
    | none => cutter.moveTo behind

/-- Skip to the next token; a byte order mark at the very start is skipped too. -/
def skipToToken (cutter : Cutter) : Cutter :=
  let cursor := cutter.cursor
  let cutter :=
    if cursor.index = 0 && cursor.sees '\uFEFF' then cutter.moveTo cursor.advance else cutter
  cutter.skipGaps (cutter.cursor.rest.length + 1)

/-- A token that ends all blocks and that no key precedes. -/
def outermost (token : Token) (next : Cursor) (cutter : Cutter) : Option Cutter := do
  let cutter ← (cutter.unindent (-1)).forgetKey
  return ((cutter.setAllowKey false).emit token).moveTo next

def openFlow (token : Token) (cutter : Cutter) : Option Cutter := do
  let cutter ← cutter.noteKey
  return { cutter with
    tokens := token :: cutter.tokens
    possible := none :: cutter.possible
    allowKey := true
    cursor := cutter.cursor.advance }

def closeFlow (token : Token) (cutter : Cutter) : Option Cutter := do
  guard cutter.inFlow
  let cutter ← cutter.forgetKey
  return { cutter with
    tokens := token :: cutter.tokens
    possible := cutter.possible.drop 1
    allowKey := false
    cursor := cutter.cursor.advance }

def entry (token : Token) (cutter : Cutter) : Option Cutter := do
  let cutter ← (cutter.setAllowKey true).forgetKey
  return (cutter.emit token).moveTo cutter.cursor.advance

def blockEntry (cutter : Cutter) : Option Cutter := do
  if cutter.inFlow then cutter.entry .blockEntry
  else
    guard cutter.allowKey
    (cutter.openBlock .blockSequenceStart).entry .blockEntry

def explicitKey (cutter : Cutter) : Option Cutter := do
  guard (cutter.inFlow || cutter.allowKey)
  let cutter := if cutter.inFlow then cutter else cutter.openBlock .blockMappingStart
  let cutter ← (cutter.setAllowKey (!cutter.inFlow)).forgetKey
  return (cutter.emit .key).moveTo cutter.cursor.advance

/-- A colon: what stands at the possible key of this level is a key. -/
def colon (cutter : Cutter) : Option Cutter := do
  match cutter.possible with
  | some key :: outer =>
    let cutter := { cutter with possible := none :: outer, allowKey := false }
    let (starts, cutter) := if cutter.inFlow then (false, cutter) else cutter.indentTo key.column
    let cutter := { cutter with keyed := (key.place, starts) :: cutter.keyed }
    return (cutter.emit .value).moveTo cutter.cursor.advance
  | _ =>
    guard (cutter.inFlow || cutter.allowKey)
    let cutter := if cutter.inFlow then cutter else cutter.openBlock .blockMappingStart
    let cutter ← (cutter.setAllowKey (!cutter.inFlow)).forgetKey
    return (cutter.emit .value).moveTo cutter.cursor.advance

/-- A token that may be a key. -/
def keyLike (cut : Cursor → Option (Token × Cursor)) (cutter : Cutter) : Option Cutter := do
  let cutter ← cutter.noteKey
  let (token, next) ← cut cutter.cursor
  return ((cutter.setAllowKey false).emit token).moveTo next

def blockScalar (folded : Bool) (cutter : Cutter) : Option Cutter := do
  let cutter ← (cutter.setAllowKey true).forgetKey
  let (text, next) ← Yaml.blockScalar cutter.indent folded cutter.cursor
  return (cutter.emit (.scalar text false)).moveTo next

def quoted (double : Bool) (cutter : Cutter) : Except ReadError Cutter := do
  let cutter ← orMalformed cutter.noteKey
  let (text, next) ← quotedScalar double cutter.cursor
  return ((cutter.setAllowKey false).emit (.scalar text false)).moveTo next

def plain (cutter : Cutter) : Option Cutter := do
  let cutter ← cutter.noteKey
  let (text, gap) := plainScalar cutter.indent cutter.inFlow cutter.cursor
  return ((cutter.setAllowKey gap.crossed).emit (.scalar text true)).moveTo gap.cursor

def startsPlain (inFlow : Bool) (point : CodePoint) (next : Option CodePoint) : Bool :=
  !(isGap (some point) ||
      (Text.ofString "-?:,[]\x7b\x7d#&*!|>'\"%@`").contains point) ||
    (!isGap next && (point = .scalar '-' ||
      (!inFlow && (point = .scalar '?' || point = .scalar ':'))))

def named (make : Text → Token) (cursor : Cursor) : Option (Token × Cursor) := do
  let (name, next) ← anchorName cursor.advance
  return (make name, next)

/-- Cut the token at the cursor, which starts with a given code point and is
neither a directive nor a quoted scalar. -/
def unquoted (point : CodePoint) (cutter : Cutter) : Option Cutter :=
  let cursor := cutter.cursor
  let inFlow := cutter.inFlow
  let gapBehind := isGap (cursor.peekAt 1)
  let atStart := cursor.column = 0
  if atStart ∧ cursor.seesMarker "---" then
    cutter.outermost .documentStart (cursor.advanceBy 3)
  else if atStart ∧ cursor.seesMarker "..." then
    cutter.outermost .documentEnd (cursor.advanceBy 3)
  else if point = '[' then cutter.openFlow .flowSequenceStart
  else if point = '\x7b' then cutter.openFlow .flowMappingStart
  else if point = ']' then cutter.closeFlow .flowSequenceEnd
  else if point = '\x7d' then cutter.closeFlow .flowMappingEnd
  else if point = ',' then cutter.entry .flowEntry
  else if point = '-' ∧ gapBehind then cutter.blockEntry
  else if point = '?' ∧ (inFlow ∨ gapBehind) then cutter.explicitKey
  else if point = ':' ∧ (inFlow ∨ gapBehind) then cutter.colon
  else if point = '*' then cutter.keyLike (named .alias)
  else if point = '&' then cutter.keyLike (named .anchor)
  else if point = '!' then cutter.keyLike tagToken
  else if point = '|' ∧ !inFlow then cutter.blockScalar false
  else if point = '>' ∧ !inFlow then cutter.blockScalar true
  else if startsPlain inFlow point (cursor.peekAt 1) then cutter.plain
  else none

def token (point : CodePoint) (cutter : Cutter) : Except ReadError Cutter :=
  if point = '%' ∧ cutter.cursor.column = 0 then do
    let (token, next) ← directiveToken cutter.cursor.advance
    orMalformed (cutter.outermost token next)
  else if point = '\'' then cutter.quoted false
  else if point = '"' then cutter.quoted true
  else orMalformed (cutter.unquoted point)

/-- Cut one more token or, at the end of the text, close what is open; tells
whether the end has been reached. -/
def step (cutter : Cutter) : Except ReadError (Cutter × Bool) := do
  let cutter ← orMalformed cutter.skipToToken.forgetStaleKeys
  let cutter := cutter.unindent cutter.cursor.column
  match cutter.cursor.peek with
  | none => return (← orMalformed (cutter.unindent (-1)).forgetKey, true)
  | some point => return (← cutter.token point, false)

/-- Cut the rest of the text, or as much of it as can be cut. -/
def finish (fuel : Nat) (cutter : Cutter) : Cutter × Option ReadError :=
  match fuel with
  | 0 => (cutter, some .malformed)
  | fuel + 1 =>
    match cutter.step with
    | .error error => (cutter, some error)
    | .ok (next, true) => (next, none)
    | .ok (next, false) => finish fuel next

/-- Is the token the place of something that may still become a key? -/
def isPending (cutter : Cutter) : Token → Bool
  | .place number => cutter.possible.any fun
    | some key => key.place = number && !isStale cutter.cursor key
    | none => false
  | _ => false

/-- A token as it is handed out: a place gives way to the key that starts at it. -/
def settle (cutter : Cutter) : Token → List Token
  | .place number =>
    match cutter.keyed.lookup number with
    | some true => [.blockMappingStart, .key]
    | some false => [.key]
    | none => []
  | token => [token]

/-- The tokens in order.  In front of a failure they end where a key may still start. -/
def result (cutter : Cutter) : Option ReadError → List Token
  | none => cutter.tokens.reverse.flatMap cutter.settle
  | some error =>
    let certain := cutter.tokens.reverse.takeWhile fun token => !cutter.isPending token
    certain.flatMap cutter.settle ++ [.failed error]

end Cutter

def tokens (text : Text) : List Token :=
  if text.all isAllowed then
    let (cutter, failure) := (Cutter.start text).finish (text.length + 2)
    cutter.result failure
  else [.failed .malformed]

end Formulary.Yaml
