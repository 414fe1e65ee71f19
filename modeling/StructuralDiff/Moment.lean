import StructuralDiff.Text.Blank
import StructuralDiff.Text.Digit

/-!
# Moments

A date with a time of the day and an offset from universal time, as `2024-05-01T12:30:00.5+02:00`. Blanks
may stand before every number and every separator, and numbers may be written without leading zeros.

* `Moment.ofText?`: the moment that a text stands for.
* `Moment.ofSeconds`, `Moment.text`: the moment after a number of seconds, and its text.
-/

namespace StructuralDiff

/-- A date and a time of the day, with an offset from universal time in minutes. -/
structure Moment where
  year : Int
  month : Nat
  day : Nat
  hour : Nat
  minute : Nat
  second : Nat
  offset : Int
  deriving DecidableEq, Repr

namespace Moment

/-- A year with a 29th of February. -/
def isLeapYear (year : Int) : Bool :=
  year % 4 == 0 && (year % 100 != 0 || year % 400 == 0)

/-- The number of days of a month. -/
def daysIn (year : Int) (month : Nat) : Nat :=
  if month == 2 then (if isLeapYear year then 29 else 28)
  else if [4, 6, 9, 11].contains month then 30
  else 31

/-- The parts of a moment are within their bounds; a second 60 may be a leap second. -/
def isValid (moment : Moment) : Bool :=
  -262143 ≤ moment.year && moment.year ≤ 262142
    && 1 ≤ moment.month && moment.month ≤ 12
    && 1 ≤ moment.day && moment.day ≤ daysIn moment.year moment.month
    && moment.hour ≤ 23 && moment.minute ≤ 59 && moment.second ≤ 60
    && moment.offset.natAbs < 24 * 60

/-- A digit from 0 to 9. -/
def isDecimal (c : Char) : Bool :=
  '0' ≤ c && c ≤ '9'

/-- Leaves out the blanks at the start. -/
def skip (text : List Char) : List Char :=
  text.dropWhile Text.isBlank

/-- A number of one to `width` digits, and what follows it. -/
def number? (width : Nat) (text : List Char) : Option (Nat × List Char) :=
  let digits := (text.take width).takeWhile isDecimal
  (Text.decimal? digits).map (·, text.drop digits.length)

/-- A number after blanks. -/
def part? (text : List Char) : Option (Nat × List Char) :=
  number? 2 (skip text)

/-- A year after blanks: up to four digits, or any number of them after a sign. -/
def year? (text : List Char) : Option (Int × List Char) :=
  match skip text with
  | '-' :: rest => (number? rest.length rest).map fun (n, rest) => (-(n : Int), rest)
  | '+' :: rest => (number? rest.length rest).map fun (n, rest) => ((n : Int), rest)
  | text => (number? 4 text).map fun (n, rest) => ((n : Int), rest)

/-- What follows a separator after blanks. -/
def after? (separator : Char) (text : List Char) : Option (List Char) :=
  match skip text with
  | c :: rest => if c == separator then some rest else none
  | [] => none

/-- What follows the mark between the date and the time. -/
def afterDate? : List Char → Option (List Char)
  | 'T' :: rest | 't' :: rest | ' ' :: rest => some rest
  | _ => none

/-- What follows a fraction of a second, which may be left out. -/
def afterFraction? : List Char → Option (List Char)
  | '.' :: rest =>
    if (rest.takeWhile isDecimal).isEmpty then none else some (rest.dropWhile isDecimal)
  | text => some text

/-- Two digits, and what follows them. -/
def pair? : List Char → Option (Nat × List Char)
  | a :: b :: rest => (Text.decimal? [a, b]).map (·, rest)
  | _ => none

/-- An offset of hours and minutes after its sign. -/
def signedOffset? (text : List Char) : Option (Nat × List Char) := do
  let (hours, rest) ← pair? text
  let (minutes, rest) ← pair? (rest.dropWhile fun c => c == ':' || Text.isBlank c)
  if minutes < 60 then some (hours * 60 + minutes, rest) else none

/-- An offset in minutes, and what follows it. -/
def offset? (text : List Char) : Option (Int × List Char) :=
  match text with
  | 'Z' :: rest | 'z' :: rest => some (0, rest)
  | '+' :: rest => (signedOffset? rest).map fun (n, rest) => ((n : Int), rest)
  | '-' :: rest | '\u2212' :: rest => (signedOffset? rest).map fun (n, rest) => (-(n : Int), rest)
  | u :: t :: c :: rest =>
    if [u, t, c].map Char.toLower == ['u', 't', 'c'] then some (0, rest) else none
  | _ => none

/-- The moment that a text stands for. -/
def ofText? (text : String) : Option Moment := do
  let (year, rest) ← year? text.toList
  let (month, rest) ← part? (← after? '-' rest)
  let (day, rest) ← part? (← after? '-' rest)
  let (hour, rest) ← part? (← afterDate? rest)
  let (minute, rest) ← part? (← after? ':' rest)
  let (second, rest) ← part? (← after? ':' rest)
  let (offset, rest) ← offset? (skip (← afterFraction? rest))
  let moment := { year, month, day, hour, minute, second, offset : Moment }
  if moment.isValid && (skip rest).isEmpty then some moment else none

/-- The date after a number of days from the begin of 1970. Years are counted from March on, in cycles of
400 years. -/
def date (days : Nat) : Nat × Nat × Nat :=
  let shifted := days + 719468
  let dayOfCycle := shifted % 146097
  let yearOfCycle :=
    (dayOfCycle - dayOfCycle / 1460 + dayOfCycle / 36524 - dayOfCycle / 146096) / 365
  let dayOfYear := dayOfCycle - (365 * yearOfCycle + yearOfCycle / 4 - yearOfCycle / 100)
  let month := (5 * dayOfYear + 2) / 153
  let day := dayOfYear - (153 * month + 2) / 5 + 1
  let year := yearOfCycle + shifted / 146097 * 400
  if month < 10 then (year, month + 3, day) else (year + 1, month - 9, day)

/-- The moment after a number of seconds from the begin of 1970. -/
def ofSeconds (seconds : Nat) : Moment :=
  let (year, month, day) := date (seconds / 86400)
  { year, month, day
    hour := seconds / 3600 % 24
    minute := seconds / 60 % 60
    second := seconds % 60
    offset := 0 }

/-- A number with zeros before it. -/
def padded (width n : Nat) : String :=
  let digits := Nat.toDigits 10 n
  String.ofList (List.replicate (width - digits.length) '0' ++ digits)

/-- The text of a moment of universal time. -/
def text (moment : Moment) : String :=
  padded 4 moment.year.toNat ++ "-" ++ padded 2 moment.month ++ "-" ++ padded 2 moment.day ++ "T"
    ++ padded 2 moment.hour ++ ":" ++ padded 2 moment.minute ++ ":" ++ padded 2 moment.second ++ "Z"

end Moment

end StructuralDiff
