import Governance.Text.Blank
import Governance.Text.Decimal

/-!
# Times

A point of time in UTC, down to nanoseconds, with the leap second `60` allowed in every minute. Times
are written as `2024-01-02T03:04:05.250Z` with 0, 3, 6 or 9 digits after the point, and a sign in front
of years of more than four digits or below zero. They are read leniently: numbers need no padding,
blanks may stand between the parts, `t` or a blank may divide date and time, and any offset below a
day is converted to UTC.
-/

namespace Governance

open Governance.Text

/-! ## The calendar -/

/-- Whether a year has a 29th of February, in the Gregorian calendar extended to all years. -/
def isLeapYear (year : Int) : Bool :=
  year % 4 == 0 && (year % 100 != 0 || year % 400 == 0)

/-- The number of days of a month; zero if there is no such month. -/
def daysInMonth (year : Int) : Nat → Nat
  | 2 => if isLeapYear year then 29 else 28
  | 4 | 6 | 9 | 11 => 30
  | 1 | 3 | 5 | 7 | 8 | 10 | 12 => 31
  | _ => 0

/-- A day of the calendar. -/
structure Day where
  year : Int
  month : Nat
  day : Nat
  deriving DecidableEq, Repr

namespace Day

/-- The first year that is kept. -/
def firstYear : Int := -262143

/-- The last year that is kept. -/
def lastYear : Int := 262142

/-- Whether the day exists and lies in a year that is kept. -/
def Valid (d : Day) : Prop :=
  firstYear ≤ d.year ∧ d.year ≤ lastYear ∧ 1 ≤ d.day ∧ d.day ≤ daysInMonth d.year d.month

instance (d : Day) : Decidable d.Valid :=
  inferInstanceAs (Decidable (_ ∧ _ ∧ _ ∧ _))

/-- The day after. -/
def next (d : Day) : Day :=
  if d.day < daysInMonth d.year d.month then { d with day := d.day + 1 }
  else if d.month < 12 then ⟨d.year, d.month + 1, 1⟩
  else ⟨d.year + 1, 1, 1⟩

/-- The day before. -/
def previous (d : Day) : Day :=
  if 1 < d.day then { d with day := d.day - 1 }
  else if 1 < d.month then ⟨d.year, d.month - 1, daysInMonth d.year (d.month - 1)⟩
  else ⟨d.year - 1, 12, 31⟩

end Day

/-! ## Points of time -/

/-- A date with a time of day. -/
structure Clock where
  day : Day
  hour : Nat
  minute : Nat
  second : Nat
  nano : Nat
  deriving DecidableEq, Repr

namespace Clock

/-- Whether the day exists and the time of day is in range; a second may be the 60th. -/
def Valid (c : Clock) : Prop :=
  c.day.Valid ∧ c.hour < 24 ∧ c.minute < 60 ∧ c.second ≤ 60 ∧ c.nano < 1000000000

instance (c : Clock) : Decidable c.Valid :=
  inferInstanceAs (Decidable (_ ∧ _ ∧ _ ∧ _ ∧ _))

/-- The clock moved by a number of minutes that is less than a day. -/
def shift (c : Clock) (minutes : Int) : Clock :=
  let total : Int := c.hour * 60 + c.minute + minutes
  let day := if total < 0 then c.day.previous else if 1440 ≤ total then c.day.next else c.day
  let within := (total % 1440).toNat
  { c with day, hour := within / 60, minute := within % 60 }

end Clock

/-- A point of time in UTC. -/
structure Timestamp where
  /-- What a clock in UTC shows. -/
  clock : Clock
  /-- The clock shows a time that exists. -/
  valid : clock.Valid
  deriving DecidableEq

namespace Timestamp

/-- The beginning of 1970. -/
def epoch : Timestamp :=
  ⟨⟨⟨1970, 1, 1⟩, 0, 0, 0, 0⟩, by decide⟩

instance : Inhabited Timestamp := ⟨epoch⟩

/-! ## Writing -/

/-- A number in at least `width` digits. -/
def padded (width n : Nat) : List Char :=
  List.replicate (width - (digits n).length) '0' ++ digits n

/-- The characters of a year. -/
def yearChars (year : Int) : List Char :=
  if 0 ≤ year ∧ year ≤ 9999 then padded 4 year.toNat
  else (if year < 0 then '-' else '+') :: padded 4 year.natAbs

/-- The characters of a fraction of a second: none, or a point and 3, 6 or 9 digits. -/
def fractionChars (nano : Nat) : List Char :=
  if nano = 0 then []
  else if nano % 1000000 = 0 then '.' :: padded 3 (nano / 1000000)
  else if nano % 1000 = 0 then '.' :: padded 6 (nano / 1000)
  else '.' :: padded 9 nano

/-- The characters of a point of time. -/
def toChars (t : Timestamp) : List Char :=
  let c := t.clock
  yearChars c.day.year ++ '-' :: padded 2 c.day.month ++ '-' :: padded 2 c.day.day ++
    'T' :: padded 2 c.hour ++ ':' :: padded 2 c.minute ++ ':' :: padded 2 c.second ++
    fractionChars c.nano ++ ['Z']

/-- The text of a point of time. -/
def toText (t : Timestamp) : String :=
  String.ofList t.toChars

/-! ## Reading -/

/-- Splits off a number of at least one and at most `most` digits. -/
def readNumber (most : Nat) (cs : List Char) : Option (Nat × List Char) :=
  match (cs.take most).takeWhile Char.isDigit with
  | [] => none
  | ds => some (numberOf ds, cs.drop ds.length)

/-- Splits off a number of any length. -/
def readLongNumber (cs : List Char) : Option (Nat × List Char) :=
  readNumber cs.length cs

/-- Splits off a year: up to four digits, or any number of them after a sign. -/
def readYear : List Char → Option (Int × List Char)
  | '-' :: cs => (readLongNumber cs).map fun (n, rest) => (-(n : Int), rest)
  | '+' :: cs => (readLongNumber cs).map fun (n, rest) => ((n : Int), rest)
  | cs => (readNumber 4 cs).map fun (n, rest) => ((n : Int), rest)

/-- Splits off a character that has to come next, after blanks. -/
def readMark (c : Char) (cs : List Char) : Option (List Char) :=
  match trimStart cs with
  | d :: rest => if d = c then some rest else none
  | [] => none

/-- Splits off a number of one or two digits, after blanks. -/
def readPart (cs : List Char) : Option (Nat × List Char) :=
  readNumber 2 (trimStart cs)

/-- Splits off the fraction of a second, in nanoseconds: digits after the ninth are passed over. -/
def readFraction : List Char → Option (Nat × List Char)
  | '.' :: cs => do
    let ds := (cs.take 9).takeWhile Char.isDigit
    if ds = [] then none
    else some (numberOf ds * Nat.pow 10 (9 - ds.length), (cs.drop ds.length).dropWhile Char.isDigit)
  | cs => some (0, cs)

/-- Splits off the mark between date and time. -/
def readDivider : List Char → Option (List Char)
  | c :: cs => if c = 't' ∨ c = 'T' ∨ c = ' ' then some cs else none
  | [] => none

/-- Reads the digits of an offset: two for the hours, colons or blanks, two for the minutes below 60. -/
def readOffsetDigits : List Char → Option (Nat × List Char)
  | a :: b :: cs =>
    match cs.dropWhile fun c => c == ':' || isBlank c with
    | c :: d :: rest =>
      if [a, b, c, d].all Char.isDigit ∧ numberOf [c, d] < 60 then
        some (numberOf [a, b] * 60 + numberOf [c, d], rest)
      else none
    | _ => none
  | _ => none

/-- Splits off an offset from UTC, in minutes. -/
def readOffset : List Char → Option (Int × List Char)
  | 'Z' :: cs | 'z' :: cs => some (0, cs)
  | '+' :: cs => (readOffsetDigits cs).map fun (n, rest) => ((n : Int), rest)
  | '-' :: cs | '−' :: cs => (readOffsetDigits cs).map fun (n, rest) => (-(n : Int), rest)
  | u :: t :: c :: cs =>
    if (u = 'U' ∨ u = 'u') ∧ (t = 'T' ∨ t = 't') ∧ (c = 'C' ∨ c = 'c') then some (0, cs) else none
  | _ => none

/-- The point of time that a clock shows which is ahead of UTC by some minutes. -/
def ofLocal? (c : Clock) (offset : Int) : Option Timestamp :=
  if c.Valid ∧ -1440 < offset ∧ offset < 1440 then
    let utc := c.shift (-offset)
    if h : utc.Valid then some ⟨utc, h⟩ else none
  else none

/-- Reads a point of time. -/
def ofChars? (cs : List Char) : Option Timestamp := do
  let (year, cs) ← readYear (trimStart cs)
  let (month, cs) ← readPart (← readMark '-' cs)
  let (day, cs) ← readPart (← readMark '-' cs)
  let (hour, cs) ← readPart (← readDivider cs)
  let (minute, cs) ← readPart (← readMark ':' cs)
  let (second, cs) ← readPart (← readMark ':' cs)
  let (nano, cs) ← readFraction cs
  let (offset, cs) ← readOffset (trimStart cs)
  if trimStart cs = [] then ofLocal? ⟨⟨year, month, day⟩, hour, minute, second, nano⟩ offset
  else none

/-- Reads a point of time from a text. -/
def ofText? (s : String) : Option Timestamp :=
  ofChars? s.toList

end Timestamp

end Governance
