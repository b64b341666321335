import PullRelay.Fault

/-!
# Instants and the civil calendar

Quotas reset at an instant given in seconds since the epoch, 1970-01-01 UTC.
Instants lie in the years 1 to 9999 of the proleptic Gregorian calendar;
`Date.ofDay` turns a day counted from the epoch into a date of that calendar.
-/

namespace PullRelay

/-- A date of the proleptic Gregorian calendar. -/
structure Date where
  year : Int
  month : Nat
  day : Nat
deriving DecidableEq, Repr

namespace Date

/-- The date of a day counted from the epoch.  Years are counted from March, so
that the leap day is the last of its year, and in eras of 400 years. -/
def ofDay (day : Int) : Date :=
  let shifted := day + 719468
  let era := shifted.fdiv 146097
  let dayOfEra := shifted.fmod 146097
  let yearOfEra :=
    (dayOfEra - dayOfEra / 1460 + dayOfEra / 36524 - dayOfEra / 146096) / 365
  let dayOfYear := dayOfEra - (365 * yearOfEra + yearOfEra / 4 - yearOfEra / 100)
  let monthFromMarch := (5 * dayOfYear + 2) / 153
  let month := if monthFromMarch < 10 then monthFromMarch + 3 else monthFromMarch - 9
  { year := yearOfEra + era * 400 + if month ≤ 2 then 1 else 0
    month := month.toNat
    day := (dayOfYear - (153 * monthFromMarch + 2) / 5 + 1).toNat }

/-- The day of a date, counted from the epoch in the same way. -/
def toDay (d : Date) : Int :=
  let year := if d.month ≤ 2 then d.year - 1 else d.year
  let monthFromMarch := if d.month ≤ 2 then d.month + 9 else d.month - 3
  let yearOfEra := year.fmod 400
  let dayOfYear : Int := (153 * monthFromMarch + 2) / 5 + d.day - 1
  year.fdiv 400 * 146097 + yearOfEra * 365 + yearOfEra / 4 - yearOfEra / 100 + dayOfYear - 719468

def isLeap (year : Int) : Bool := year % 4 == 0 && (year % 100 != 0 || year % 400 == 0)

/-- The number of days of a month; a month that is none has no days. -/
def daysIn (year : Int) (month : Nat) : Nat :=
  match month with
  | 2 => if isLeap year then 29 else 28
  | 4 | 6 | 9 | 11 => 30
  | 1 | 3 | 5 | 7 | 8 | 10 | 12 => 31
  | _ => 0

end Date

/-- An instant in the years 1 to 9999, in seconds since the epoch. -/
structure Instant where
  seconds : Int
  inRange : -62135596800 ≤ seconds ∧ seconds ≤ 253402300799

namespace Instant

def epoch : Instant := ⟨0, by decide⟩

instance : Inhabited Instant := ⟨epoch⟩

def secondsPerDay : Int := 86400

def date (t : Instant) : Date := Date.ofDay (t.seconds.fdiv secondsPerDay)

/-- The hour, minute and second of an instant. -/
def time (t : Instant) : Nat × Nat × Nat :=
  let s := (t.seconds.fmod secondsPerDay).toNat
  (s / 3600, s / 60 % 60, s % 60)

/-- The instant so many seconds after the epoch.  Seconds count in 64 bits and
years, less 1900, in 32; a year past the calendar is reported as the 32 bits
show it. -/
def ofSeconds (seconds : Int) : Except Fault Instant :=
  if h : -62135596800 ≤ seconds ∧ seconds ≤ 253402300799 then .ok ⟨seconds, h⟩
  else if seconds < -Int.pow 2 63 ∨ Int.pow 2 63 ≤ seconds then .error .instantTooLarge
  else
    let year := (Date.ofDay (seconds.fdiv secondsPerDay)).year
    if year - 1900 < -Int.pow 2 31 ∨ Int.pow 2 31 ≤ year - 1900 then .error .instantUnrepresentable
    else .error (.yearOutOfRange (year.bmod (Nat.pow 2 32)))

def padded (width n : Nat) : String :=
  let ds := Nat.toDigits 10 n
  String.ofList (List.replicate (width - ds.length) '0' ++ ds)

def clockText (t : Instant) : String :=
  let (h, m, s) := t.time
  padded 2 h ++ ":" ++ padded 2 m ++ ":" ++ padded 2 s

/-- Month and day, after the year. -/
def monthDayText (t : Instant) : String :=
  "-" ++ padded 2 t.date.month ++ "-" ++ padded 2 t.date.day

/-- Date and time with `T` between them, without the offset. -/
def isoLocal (t : Instant) : String :=
  padded 4 t.date.year.toNat ++ t.monthDayText ++ "T" ++ t.clockText

/-- Date and time with the offset from UTC in hours and minutes. -/
def isoOffset (t : Instant) : String := t.isoLocal ++ "+00:00"

/-- Date and time with the letter for UTC. -/
def isoZulu (t : Instant) : String := t.isoLocal ++ "Z"

/-- Date and time in log messages, where the year is not padded. -/
def plain (t : Instant) : String :=
  toString t.date.year ++ t.monthDayText ++ " " ++ t.clockText

end Instant

end PullRelay
