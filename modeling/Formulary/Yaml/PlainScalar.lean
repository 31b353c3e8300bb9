import Formulary.Yaml.Cursor

namespace Formulary.Yaml

/-! # Plain scalars

A scalar without quotes goes on over blanks and line breaks as long as nothing
ends it: a colon with a gap behind it, a comment, a bracket inside brackets,
less indentation, or a document marker.  A single line break reads as a blank.
-/

/-- Does a code point, with the one behind it, end a run of a plain scalar? -/
def endsPlainRun (inFlow : Bool) (point : CodePoint) (next : Option CodePoint) : Bool :=
  isGap (some point) ||
    (point = .scalar ':' &&
      (isGap next || (inFlow && (next.map (Text.ofString ",[]\x7b\x7d").contains).getD false))) ||
    (inFlow && (Text.ofString ",?[]\x7b\x7d").contains point)

def plainRun (inFlow : Bool) : Text → Text
  | [] => []
  | point :: rest =>
    if endsPlainRun inFlow point rest.head? then [] else point :: plainRun inFlow rest

/-- Blanks and empty lines between two runs: the breaks after the first, and
the place behind them.  A document marker gives none. -/
def emptyLines (fuel : Nat) (breaks : Text) (cursor : Cursor) : Option (Text × Cursor) :=
  match fuel with
  | 0 => some (breaks, cursor)
  | fuel + 1 =>
    if cursor.sees ' ' then emptyLines fuel breaks cursor.advance
    else
      match cursor.lineBreak? with
      | none => some (breaks, cursor)
      | some (lineBreak, next) =>
        if next.seesDocumentMarker then none
        else emptyLines fuel (breaks ++ [lineBreak]) next

structure Gap where
  text : Text
  cursor : Cursor
  /-- Was a line break passed? -/
  crossed : Bool

/-- Line breaks as they are read: the first one is a blank if it is the only one. -/
def foldBreaks (first : CodePoint) (breaks : Text) : Text :=
  (if first ≠ .scalar '\n' then [first] else if breaks = [] then [.scalar ' '] else []) ++ breaks

def plainGap (cursor : Cursor) : Gap :=
  let (blanks, afterBlanks) := cursor.takeWhile (· = .scalar ' ')
  match afterBlanks.lineBreak? with
  | none => ⟨blanks, afterBlanks, false⟩
  | some (lineBreak, next) =>
    if next.seesDocumentMarker then ⟨[], next, true⟩
    else
      match emptyLines next.rest.length [] next with
      | none => ⟨[], next, true⟩
      | some (breaks, behind) => ⟨foldBreaks lineBreak breaks, behind, true⟩

/-- Runs of a plain scalar, joined by what stands between them. -/
def plainRuns (fuel : Nat) (indent : Int) (inFlow : Bool) (taken : Text) (gap : Gap) :
    Text × Gap :=
  match fuel with
  | 0 => (taken, gap)
  | fuel + 1 =>
    if gap.cursor.sees '#' then (taken, gap)
    else
      match plainRun inFlow gap.cursor.rest with
      | [] => (taken, gap)
      | run =>
        let taken := taken ++ gap.text ++ run
        let behind := plainGap (gap.cursor.advanceBy run.length)
        if behind.text = [] ∨ behind.cursor.sees '#' ∨
            (!inFlow ∧ (behind.cursor.column : Int) < indent) then
          (taken, behind)
        else plainRuns fuel indent inFlow taken behind

/-- A plain scalar inside a given indentation, and the gap behind it. -/
def plainScalar (indent : Int) (inFlow : Bool) (cursor : Cursor) : Text × Gap :=
  plainRuns (cursor.rest.length + 1) (indent + 1) inFlow [] ⟨[], cursor, false⟩

end Formulary.Yaml
