import Formulary.Yaml.Cursor

namespace Formulary.Yaml

/-! # Block scalars

A bar or an angle starts a scalar of whole lines that are indented alike.
Behind a bar every line break stays; behind an angle a single one between
lines that are not indented further reads as a blank.
-/

/-- What becomes of the line breaks at the end of a block scalar. -/
inductive Chomping where
  | clip
  | strip
  | keep
deriving DecidableEq, Repr

/-- What stands behind the bar or angle. -/
structure BlockHeader where
  chomping : Chomping
  /-- The indentation beyond that of the surroundings, if it is given. -/
  increment : Option Nat

def chomping? : Option CodePoint → Option Chomping
  | some (.scalar '+') => some .keep
  | some (.scalar '-') => some .strip
  | _ => none

def increment? (point : Option CodePoint) : Option Nat :=
  match point.bind CodePoint.digit? with
  | some digit => if digit.val = 0 then none else some digit.val
  | none => none

/-- The indicators of a block scalar in either order; a zero is no indentation. -/
def blockHeader (cursor : Cursor) : Option (BlockHeader × Cursor) :=
  let zero (cursor : Cursor) : Bool := cursor.sees '0'
  match chomping? cursor.peek with
  | some chomping =>
    let next := cursor.advance
    if zero next then none
    else
      match increment? next.peek with
      | some increment => some (⟨chomping, some increment⟩, next.advance)
      | none => some (⟨chomping, none⟩, next)
  | none =>
    if zero cursor then none
    else
      match increment? cursor.peek with
      | some increment =>
        let next := cursor.advance
        match chomping? next.peek with
        | some chomping => some (⟨chomping, some increment⟩, next.advance)
        | none => some (⟨.clip, some increment⟩, next)
      | none => some (⟨.clip, none⟩, cursor)

/-- Is the header of a block scalar set off from what follows it on its line? -/
def endsHeader (cursor : Cursor) : Bool :=
  endsLine cursor.peek || cursor.sees ' '

/-- The rest of a line that may hold blanks and a comment only, and the line after it. -/
def ignoredLine (cursor : Cursor) : Option Cursor :=
  let behind := cursor.skipBlanks
  let behind := if behind.sees '#' then behind.skipLine else behind
  match behind.peek with
  | none => some behind
  | some _ => behind.lineBreak?.map Prod.snd

/-- Empty lines before the first line of a block scalar: their breaks, the
greatest indentation among them, and the place behind them. -/
def leadingLines (fuel : Nat) (breaks : Text) (widest : Nat) (cursor : Cursor) :
    Text × Nat × Cursor :=
  match fuel with
  | 0 => (breaks, widest, cursor)
  | fuel + 1 =>
    if cursor.sees ' ' then
      leadingLines fuel breaks (max widest cursor.advance.column) cursor.advance
    else
      match cursor.lineBreak? with
      | some (lineBreak, next) => leadingLines fuel (breaks ++ [lineBreak]) widest next
      | none => (breaks, widest, cursor)

/-- Empty lines inside a block scalar, and the place behind their indentation. -/
def blockBreaks (fuel : Nat) (indent : Nat) (breaks : Text) (cursor : Cursor) : Text × Cursor :=
  match fuel with
  | 0 => (breaks, cursor)
  | fuel + 1 =>
    let indented := cursor.skipBlanksTo indent
    match indented.lineBreak? with
    | some (lineBreak, next) => blockBreaks fuel indent (breaks ++ [lineBreak]) next
    | none => (breaks, indented)

private def startsBlank (cursor : Cursor) : Bool :=
  cursor.sees ' ' || cursor.sees '\t'

/-- The lines of a block scalar.  `taken` is what was read, and `lineBreak` and
`breaks` are the breaks since then. -/
def blockLines (fuel : Nat) (folded : Bool) (indent : Nat) (taken : Text)
    (lineBreak : Text) (breaks : Text) (cursor : Cursor) : Text × Text × Text × Cursor :=
  match fuel with
  | 0 => (taken, lineBreak, breaks, cursor)
  | fuel + 1 =>
    if cursor.column = indent ∧ cursor.peek.isSome then
      let further := startsBlank cursor
      let (run, behindRun) := cursor.takeWhile (!isBreak ·)
      let taken := taken ++ breaks ++ run
      let (lineBreak, next) :=
        match behindRun.lineBreak? with
        | some (lineBreak, next) => ([lineBreak], next)
        | none => ([], behindRun)
      let (breaks, behind) := blockBreaks (next.rest.length + 1) indent [] next
      if behind.column = indent ∧ behind.peek.isSome then
        let joint : Text :=
          if folded ∧ lineBreak = [.scalar '\n'] ∧ !further ∧ !startsBlank behind then
            if breaks = [] then [.scalar ' '] else []
          else lineBreak
        blockLines fuel folded indent (taken ++ joint) [] breaks behind
      else (taken, lineBreak, breaks, behind)
    else (taken, lineBreak, breaks, cursor)

/-- The block scalar whose bar or angle is at the cursor, inside a given
indentation, and the place behind it. -/
def blockScalar (outer : Int) (folded : Bool) (cursor : Cursor) : Option (Text × Cursor) := do
  let (header, behindHeader) ← blockHeader cursor.advance
  guard (endsHeader behindHeader)
  let start ← ignoredLine behindHeader
  let least := (max (outer + 1) 1).toNat
  let (breaks, indent, first) :=
    match header.increment with
    | none =>
      let (breaks, widest, first) := leadingLines (start.rest.length + 1) [] 0 start
      (breaks, max least widest, first)
    | some increment =>
      let indent := least + increment - 1
      let (breaks, first) := blockBreaks (start.rest.length + 1) indent [] start
      (breaks, indent, first)
  let (taken, lineBreak, breaks, behind) :=
    blockLines (start.rest.length + 1) folded indent [] [] breaks first
  let tail : Text :=
    match header.chomping with
    | .strip => []
    | .clip => lineBreak
    | .keep => lineBreak ++ breaks
  return (taken ++ tail, behind)

end Formulary.Yaml
