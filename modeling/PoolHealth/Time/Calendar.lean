import PoolHealth.Text.Blank
import PoolHealth.Time.Duration

/-!
# Dates and timestamps

Days are counted from 1970-01-01 in the proleptic Gregorian calendar.  A timestamp is
a point in universal time.  It is written in the RFC 3339 form with `Z`, and read from
that form with any offset; white space may stand between its parts.
-/

namespace PoolHealth

structure Date where
  year : Int
  month : Nat
  day : Nat
deriving DecidableEq, Repr

namespace Date

/-- The number of days from 1970-01-01 to a date.  The year is counted from March, so
that the leap day comes last, in eras of 400 years. -/
def toDays (d : Date) : Int :=
  let y := if d.month ≤ 2 then d.year - 1 else d.year
  let era := y / 400
  let yearOfEra := y % 400
  let monthFromMarch : Int := ((d.month + 9) % 12 : Nat)
  let dayOfYear := (153 * monthFromMarch + 2) / 5 + d.day - 1
  let dayOfEra := yearOfEra * 365 + yearOfEra / 4 - yearOfEra / 100 + dayOfYear
  era * 146097 + dayOfEra - 719468

/-- The date that many days after 1970-01-01. -/
def ofDays (n : Int) : Date :=
  let z := n + 719468
  let era := z / 146097
  let dayOfEra := z % 146097
  let yearOfEra := (dayOfEra - dayOfEra / 1460 + dayOfEra / 36524 - dayOfEra / 146096) / 365
  let dayOfYear := dayOfEra - (365 * yearOfEra + yearOfEra / 4 - yearOfEra / 100)
  let monthFromMarch := (5 * dayOfYear + 2) / 153
  let day := dayOfYear - (153 * monthFromMarch + 2) / 5 + 1
  let month := if monthFromMarch < 10 then monthFromMarch + 3 else monthFromMarch - 9
  let year := yearOfEra + era * 400 + (if month ≤ 2 then 1 else 0)
  ⟨year, month.toNat, day.toNat⟩

def isLeapYear (year : Int) : Bool := year % 4 == 0 && (year % 100 != 0 || year % 400 == 0)

def monthLength (year : Int) (month : Nat) : Nat :=
  match month with
  | 2 => if isLeapYear year then 29 else 28
  | 4 | 6 | 9 | 11 => 30
  | _ => 31

def isValid (d : Date) : Bool :=
  1 ≤ d.month && d.month ≤ 12 && 1 ≤ d.day && d.day ≤ monthLength d.year d.month

def minYear : Int := -262143

def maxYear : Int := 262142

end Date

/-- A point in universal time: seconds since 1970 and nanoseconds.  A leap second is
the second before it with a thousand million nanoseconds more. -/
structure Timestamp where
  seconds : Int
  nanos : Nat
deriving DecidableEq, Repr, Inhabited

namespace Timestamp

def minSeconds : Int := Date.toDays ⟨Date.minYear, 1, 1⟩ * 86400

def maxSeconds : Int := Date.toDays ⟨Date.maxYear, 12, 31⟩ * 86400 + 86399

/-- The timestamp of a point in time, for a clock that started with the year 1970. -/
def ofInstant (now : Instant) : Timestamp where
  seconds := (now.nanos / Duration.nanosPerSec : Nat)
  nanos := now.nanos % Duration.nanosPerSec

def inRange (seconds : Int) : Bool := minSeconds ≤ seconds && seconds ≤ maxSeconds

/-- The point in time that many milliseconds after the start of 1970. -/
def ofMillis (ms : Int) : Timestamp := ⟨ms / 1000, (ms % 1000).toNat * 1000000⟩

/-- The milliseconds since the start of 1970, rounded down. -/
def toMillis (t : Timestamp) : Int := t.seconds * 1000 + (t.nanos / 1000000 : Nat)

/-- The point that many seconds earlier, if the calendar reaches it. -/
def minusSeconds? (t : Timestamp) (seconds : Nat) : Option Timestamp :=
  if inRange (t.seconds - seconds) then some ⟨t.seconds - seconds, t.nanos⟩ else none

def before (a b : Timestamp) : Bool :=
  decide (a.seconds < b.seconds) || (a.seconds == b.seconds && decide (a.nanos < b.nanos))

/-!
## Writing
-/

/-- A number with at least `width` digits. -/
def padded (width n : Nat) : String :=
  let digits := Nat.toDigits 10 n
  String.ofList (List.replicate (width - digits.length) '0' ++ digits)

/-- A year: four digits, and a sign outside of the years that have four. -/
def yearText (year : Int) : String :=
  if 0 ≤ year ∧ year ≤ 9999 then padded 4 year.toNat
  else (if year < 0 then "-" else "+") ++ padded 4 year.natAbs

/-- A fraction of a second with three, six or nine digits, whichever suffices. -/
def fractionText (nanos : Nat) : String :=
  if nanos = 0 then ""
  else if nanos % 1000000 = 0 then "." ++ padded 3 (nanos / 1000000)
  else if nanos % 1000 = 0 then "." ++ padded 6 (nanos / 1000)
  else "." ++ padded 9 nanos

/-- The timestamp in the RFC 3339 form. -/
def render (t : Timestamp) : String :=
  let date := Date.ofDays (t.seconds / 86400)
  let second := (t.seconds % 86400).toNat
  let leap := t.nanos / 1000000000
  yearText date.year ++ "-" ++ padded 2 date.month ++ "-" ++ padded 2 date.day ++ "T"
    ++ padded 2 (second / 3600) ++ ":" ++ padded 2 (second / 60 % 60) ++ ":"
    ++ padded 2 (second % 60 + leap) ++ fractionText (t.nanos % 1000000000) ++ "Z"

/-!
## Reading

Each reader takes characters from the front and gives the rest.
-/

/-- A step of reading: a value and the characters behind it. -/
abbrev Scan (α : Type) := List Char -> Option (α × List Char)

/-- Up to `width` digits after optional white space. -/
def scanNumber (width : Nat) : Scan Nat := fun cs =>
  let cs := Text.trimLeft cs
  let digits := (cs.take width).takeWhile Char.isDigit
  if digits.isEmpty then none
  else some (digits.foldl (fun n c => n * 10 + (c.toNat - '0'.toNat)) 0, cs.drop digits.length)

/-- A year: up to four digits, or any number of them after a sign. -/
def scanYear : Scan Int := fun cs =>
  match Text.trimLeft cs with
  | '-' :: rest =>
      if (rest.head?.map Char.isDigit).getD false then
        (scanNumber rest.length rest).map fun (n, rest) => (-(n : Int), rest)
      else none
  | '+' :: rest =>
      if (rest.head?.map Char.isDigit).getD false then
        (scanNumber rest.length rest).map fun (n, rest) => ((n : Int), rest)
      else none
  | rest => (scanNumber 4 rest).map fun (n, rest) => ((n : Int), rest)

/-- A given character, with white space before it if `spaced`. -/
def scanChar (c : Char) : Scan Unit := fun cs =>
  match Text.trimLeft cs with
  | d :: rest => if d = c then some ((), rest) else none
  | [] => none

/-- A fraction of a second in nanoseconds; digits past the ninth do not count. -/
def scanFraction : Scan Nat := fun cs =>
  match cs with
  | '.' :: rest =>
      let digits := rest.takeWhile Char.isDigit
      if digits.isEmpty then none
      else
        let nine := (digits ++ List.replicate 9 '0').take 9
        some (nine.foldl (fun n c => n * 10 + (c.toNat - '0'.toNat)) 0,
          rest.dropWhile Char.isDigit)
  | _ => some (0, cs)

def scanSeparator : Scan Unit := fun cs =>
  match cs with
  | c :: rest => if c = 'T' || c = 't' || c = ' ' then some ((), rest) else none
  | [] => none

def scanTwoDigits : Scan Nat := fun cs =>
  match cs with
  | a :: b :: rest =>
      if a.isDigit && b.isDigit then
        some ((a.toNat - '0'.toNat) * 10 + (b.toNat - '0'.toNat), rest)
      else none
  | _ => none

def scanOffset : Scan Int := fun cs =>
  match Text.trimLeft cs with
  | [] => none
  | c :: rest =>
      if c = 'Z' || c = 'z' then some (0, rest)
      else if ((c :: rest).take 3).map Char.toUpper == ['U', 'T', 'C'] then some (0, rest.drop 2)
      else if c = '+' || c = '-' || c = '\u2212' then
        match scanTwoDigits rest with
        | none => none
        | some (hours, rest) =>
            match scanTwoDigits (rest.dropWhile fun c => c = ':' || Text.isBlank c) with
            | none => none
            | some (minutes, rest) =>
                if minutes ≥ 60 then none
                else
                  let seconds : Int := hours * 3600 + minutes * 60
                  some (if c = '+' then seconds else -seconds, rest)
      else none

/-- The seconds and nanoseconds of a time of day; a sixtieth second is a leap
second. -/
def timeOfDay? (hour minute second nanos : Nat) : Option (Nat × Nat) :=
  if hour ≥ 24 || minute ≥ 60 || second > 60 then none
  else if second = 60 then some (hour * 3600 + minute * 60 + 59, 1000000000 + nanos)
  else some (hour * 3600 + minute * 60 + second, nanos)

def parse? (s : String) : Option Timestamp := do
  let (year, cs) ← scanYear s.toList
  let ((), cs) ← scanChar '-' cs
  let (month, cs) ← scanNumber 2 cs
  let ((), cs) ← scanChar '-' cs
  let (day, cs) ← scanNumber 2 cs
  let ((), cs) ← scanSeparator cs
  let (hour, cs) ← scanNumber 2 cs
  let ((), cs) ← scanChar ':' cs
  let (minute, cs) ← scanNumber 2 cs
  let ((), cs) ← scanChar ':' cs
  let (second, cs) ← scanNumber 2 cs
  let (nanos, cs) ← scanFraction cs
  let (offset, cs) ← scanOffset cs
  if !(Text.trimLeft cs).isEmpty then none
  else
    let date : Date := ⟨year, month, day⟩
    if !date.isValid || year < Date.minYear || year > Date.maxYear then none
    else
      let (secondOfDay, nanos) ← timeOfDay? hour minute second nanos
      let seconds := date.toDays * 86400 + secondOfDay - offset
      if offset.natAbs ≥ 86400 || !inRange seconds then none
      else some ⟨seconds, nanos⟩

end Timestamp
end PoolHealth
