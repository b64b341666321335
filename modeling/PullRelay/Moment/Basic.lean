import PullRelay.Calendar

/-!
# Moments

A moment is a date and a time of day as some clock shows them, with the offset of
that clock from UTC where it is known.  Moments on known clocks are the same if
they are the same instant; on unknown ones, if the clocks show the same.
-/

namespace PullRelay

/-- A reading of a clock. -/
structure Moment where
  date : Date
  /-- Seconds since midnight. -/
  second : Nat
  microsecond : Nat := 0
  /-- Minutes that the clock is ahead of UTC. -/
  offset? : Option Int := none
deriving DecidableEq, Repr

namespace Moment

/-- Why a text or a number is no moment. -/
inductive Fault where
  | tooShort
  | extraCharacters
  | badYear
  | badSeparator
  | badMonth
  | badDay
  | monthOutOfRange
  | dayOutOfRange
  | tooEarly
  | tooLate
  | notANumber
  | yearZero
deriving DecidableEq, Repr

def Fault.message : Fault → String
  | .tooShort => "input is too short"
  | .extraCharacters => "unexpected extra characters at the end of the input"
  | .badYear => "invalid character in year"
  | .badSeparator => "invalid date separator, expected \x60-\x60"
  | .badMonth => "invalid character in month"
  | .badDay => "invalid character in day"
  | .monthOutOfRange => "month value is outside expected range of 1-12"
  | .dayOutOfRange => "day value is outside expected range"
  | .tooEarly => "dates before 0000 are not supported as unix timestamps"
  | .tooLate => "dates after 9999 are not supported as unix timestamps"
  | .notANumber => "NaN values not permitted"
  | .yearZero => "year 0 is out of range"

def microseconds : Nat := 1000000

/-- What the clock shows, in microseconds since the date of the epoch. -/
def reading (m : Moment) : Int :=
  (m.date.toDay * Instant.secondsPerDay + m.second) * microseconds + m.microsecond

/-- Microseconds since the epoch, on a known clock. -/
def sinceEpoch? (m : Moment) : Option Int :=
  m.offset?.map fun minutes ↦ m.reading - minutes * 60 * microseconds

/-- The same moment.  A known clock and an unknown one never agree. -/
def same (a b : Moment) : Bool :=
  match a.sinceEpoch?, b.sinceEpoch? with
  | some s, some t => s == t
  | none, none => a.reading == b.reading
  | _, _ => false

@[simp] theorem same_self (m : Moment) : m.same m = true := by
  unfold same
  cases m.sinceEpoch? <;> simp

/-- The time of day, with six digits behind the point if it is no whole second. -/
def timeText (m : Moment) : String :=
  Instant.padded 2 (m.second / 3600) ++ ":" ++ Instant.padded 2 (m.second / 60 % 60) ++ ":"
    ++ Instant.padded 2 (m.second % 60)
    ++ if m.microsecond = 0 then "" else "." ++ Instant.padded 6 m.microsecond

def readingText (m : Moment) : String :=
  Instant.padded 4 m.date.year.toNat ++ "-" ++ Instant.padded 2 m.date.month ++ "-"
    ++ Instant.padded 2 m.date.day ++ "T" ++ m.timeText

/-- An offset in hours and minutes. -/
def offsetText (minutes : Int) : String :=
  (if minutes < 0 then "-" else "+") ++ Instant.padded 2 (minutes.natAbs / 60) ++ ":"
    ++ Instant.padded 2 (minutes.natAbs % 60)

/-- The text of a moment, with the offset in digits where it is known. -/
def isoText (m : Moment) : String := m.readingText ++ (m.offset?.map offsetText).getD ""

/-- The text of a moment, with a letter for UTC. -/
def text (m : Moment) : String := if m.offset? = some 0 then m.readingText ++ "Z" else m.isoText

end Moment

end PullRelay
