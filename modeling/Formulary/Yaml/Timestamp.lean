import Formulary.Number.Numeral

namespace Formulary.Yaml

/-! # Timestamps

A date, or a date with a time of day, perhaps with an offset from universal
time.  Texts of the right shape may still name no day or no time.
-/

structure Date where
  year : Nat
  month : Nat
  day : Nat
deriving DecidableEq, Repr

structure Moment where
  date : Date
  hour : Nat
  minute : Nat
  second : Nat
  microsecond : Nat
  /-- Seconds ahead of universal time, if that is known. -/
  offset : Option Int
deriving DecidableEq, Repr

def isLeapYear (year : Nat) : Bool :=
  year % 4 = 0 && (year % 100 ≠ 0 || year % 400 = 0)

def daysInMonth (year month : Nat) : Nat :=
  if month = 2 then if isLeapYear year then 29 else 28
  else if month = 4 ∨ month = 6 ∨ month = 9 ∨ month = 11 then 30
  else 31

private def arguments (numbers : List Nat) : Text :=
  Text.join ", " (numbers.map Numeral.ofNat)

def spanLiteral (span : Int) : Text :=
  let days := span / 86400
  let seconds := span % 86400
  let parts : List Text :=
    (if days = 0 then [] else ["days=" ++ Numeral.ofInt days]) ++
      (if seconds = 0 then [] else ["seconds=" ++ Numeral.ofInt seconds])
  let shown := if parts = [] then Text.ofString "0" else Text.join ", " parts
  "datetime.timedelta(" ++ shown ++ ")"

def offsetLiteral (offset : Int) : Text :=
  if offset = 0 then "datetime.timezone.utc"
  else "datetime.timezone(" ++ spanLiteral offset ++ ")"

namespace Date

def literal (date : Date) : Text :=
  "datetime.date(" ++ arguments [date.year, date.month, date.day] ++ ")"

/-- Dates are compared by year, month and day. -/
def rank (date : Date) : Nat :=
  (date.year * 100 + date.month) * 100 + date.day

def fault? (date : Date) : Option Text :=
  if date.year = 0 then some "year 0 is out of range"
  else if date.month = 0 ∨ 12 < date.month then some "month must be in 1..12"
  else if date.day = 0 ∨ daysInMonth date.year date.month < date.day then
    some "day is out of range for month"
  else none

end Date

namespace Moment

/-- A moment as messages show it; seconds that are zero are left out. -/
def literal (moment : Moment) : Text :=
  let date := moment.date
  let always := [date.year, date.month, date.day, moment.hour, moment.minute]
  let further :=
    if moment.microsecond ≠ 0 then [moment.second, moment.microsecond]
    else if moment.second ≠ 0 then [moment.second]
    else []
  let zone : Text :=
    match moment.offset with
    | none => []
    | some offset => ", tzinfo=" ++ offsetLiteral offset
  "datetime.datetime(" ++ arguments (always ++ further) ++ zone ++ ")"

/-- How many values stand inside each other where a moment is shown: the moment
itself, its zone, and the span of the zone.  Universal time shows no span. -/
def levels (moment : Moment) : Nat :=
  match moment.offset with
  | none => 1
  | some offset => if offset = 0 then 2 else 3

def fault? (moment : Moment) : Option Text :=
  let offset := moment.offset.getD 0
  if offset ≤ -86400 ∨ 86400 ≤ offset then
    some ("offset must be a timedelta strictly between -timedelta(hours=24) and " ++
      "timedelta(hours=24), not " ++ spanLiteral offset ++ ".")
  else
    match moment.date.fault? with
    | some fault => some fault
    | none =>
      if 23 < moment.hour then some "hour must be in 0..23"
      else if 59 < moment.minute then some "minute must be in 0..59"
      else if 59 < moment.second then some "second must be in 0..59"
      else none

/-- Moments are compared by their seconds in universal time, in microseconds from year zero. -/
def instant (moment : Moment) : Int :=
  let years := moment.date.year
  let before := (List.range (moment.date.month - 1)).foldl
    (fun days month => days + daysInMonth years (month + 1)) 0
  let leapDays := (years - 1) / 4 - (years - 1) / 100 + (years - 1) / 400
  let days : Int := 365 * years + leapDays + before + moment.date.day
  let seconds : Int := days * 86400 + moment.hour * 3600 + moment.minute * 60 + moment.second
  (seconds - moment.offset.getD 0) * 1000000 + moment.microsecond

end Moment

inductive Timestamp where
  | date (date : Date)
  | moment (moment : Moment)
deriving DecidableEq, Repr

namespace Timestamp

private def digits (count : Nat) (text : Text) : Option (Nat × Text) := do
  let run := text.take count
  guard (run.length = count && run.all fun point => point.digit?.isSome)
  return (Numeral.value (Numeral.takeDigits run).1, text.drop count)

private def oneOrTwo (text : Text) : Option (Nat × Text) :=
  match digits 2 text with
  | some found => some found
  | none => digits 1 text

private def exactly (character : Char) (text : Text) : Option Text :=
  Text.dropStart? [.scalar character] text

private def isSpace (point : CodePoint) : Bool :=
  point = .scalar ' ' || point = .scalar '\t'

private def zoneMinutes (text : Text) : Option Nat :=
  if text = [] then some 0
  else do
    let (minutes, rest) ← digits 2 (← exactly ':' text)
    guard (rest = [])
    return minutes

/-- The offset at the end of a moment, which the text must not go on behind. -/
private def zone (text : Text) : Option (Option Int) := do
  match text.dropWhile isSpace with
  | [] => if text = [] then return none else none
  | [.scalar 'Z'] => return some 0
  | sign :: rest =>
    guard (sign = .scalar '+' || sign = .scalar '-')
    let (hours, rest) ← oneOrTwo rest
    let minutes ← zoneMinutes rest
    let span : Int := hours * 3600 + minutes * 60
    return some (if sign = .scalar '-' then -span else span)

/-- Microseconds from the digits behind the point, six of which count. -/
private def microseconds (digits : List Digit) : Nat :=
  let kept := digits.take 6
  Numeral.value kept * Nat.pow 10 (6 - kept.length)

private def timeOfDay (date : Date) (text : Text) : Option Moment := do
  let (hour, rest) ← oneOrTwo text
  let (minute, rest) ← digits 2 (← exactly ':' rest)
  let (second, rest) ← digits 2 (← exactly ':' rest)
  let (fraction, rest) :=
    match rest with
    | .scalar '.' :: following => Numeral.takeDigits following
    | _ => ([], rest)
  let offset ← zone rest
  return ⟨date, hour, minute, second, microseconds fraction, offset⟩

/-- Read a text of the shape of a timestamp.  Month and day have one or two
digits each, and a line feed may follow. -/
def ofText? (text : Text) : Option Timestamp := do
  let (year, rest) ← digits 4 (Text.dropFinalFeed text)
  let (month, rest) ← oneOrTwo (← exactly '-' rest)
  let (day, rest) ← oneOrTwo (← exactly '-' rest)
  if rest = [] then return .date ⟨year, month, day⟩
  else
    let afterSeparator :=
      match rest with
      | .scalar 'T' :: following | .scalar 't' :: following => following
      | _ => rest.dropWhile isSpace
    guard (afterSeparator.length < rest.length)
    return .moment (← timeOfDay ⟨year, month, day⟩ afterSeparator)

/-- Does a text without a tag name a timestamp?  A date alone has to have two
digits for the month and the day. -/
def isPlain (text : Text) : Bool :=
  match ofText? text with
  | some (.date _) => (Text.dropFinalFeed text).length = 10
  | some (.moment _) => true
  | none => false

end Timestamp

end Formulary.Yaml
