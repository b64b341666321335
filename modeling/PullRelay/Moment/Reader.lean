import PullRelay.Moment.Basic
import PullRelay.Number.Numeral

/-!
# Reading moments

A moment is written as a date, a separator, a time of day and an offset, the last
of which may be missing, as may the seconds; or as the date alone, for its
midnight; or as a number of seconds since the epoch, of milliseconds if it is a
large one, whole or with a point.  What a text is to blame for is looked for in its
date.
-/

namespace PullRelay.Moment

open Text

/-- A number of exactly so many digits in front, and what follows it. -/
def readDigits? (count : Nat) (cs : List Char) : Option (Nat × List Char) :=
  if count ≤ cs.length then
    ((cs.take count).mapM asciiDigit?).map fun ds ↦ (Numeral.ofDigits ds, cs.drop count)
  else none

/-- Digits of a part of a date. -/
def expectDigits (count : Nat) (fault : Fault) (cs : List Char) :
    Except Fault (Nat × List Char) :=
  match readDigits? count cs with
  | some read => .ok read
  | none => .error fault

/-- What follows the hyphen between the parts of a date. -/
def expectHyphen : List Char → Except Fault (List Char)
  | '-' :: rest => .ok rest
  | _ => .error .badSeparator

def byteLength (cs : List Char) : Nat := cs.foldr (fun c n ↦ c.utf8Size + n) 0

/-- The date in front.  Its parts are read before it is looked up in the calendar. -/
def readDate (cs : List Char) : Except Fault (Date × List Char) := do
  if byteLength cs < 10 then throw .tooShort
  let (year, cs) ← expectDigits 4 .badYear cs
  let (month, cs) ← expectDigits 2 .badMonth (← expectHyphen cs)
  let (day, cs) ← expectDigits 2 .badDay (← expectHyphen cs)
  let days := Date.daysIn year month
  if days = 0 then throw .monthOutOfRange
  if day = 0 ∨ days < day then throw .dayOutOfRange
  return ({ year, month, day }, cs)

/-- A date alone, for its midnight. -/
def readMidnight (cs : List Char) : Except Fault Moment := do
  let (date, rest) ← readDate cs
  if rest.isEmpty then return { date, second := 0 } else throw .extraCharacters

/-- The fraction in front, in microseconds; digits after the sixth do not count. -/
def readFraction? (cs : List Char) : Option (Nat × List Char) :=
  match cs with
  | c :: rest =>
    if c = '.' ∨ c = ',' then
      let ds := (rest.takeWhile fun d ↦ (asciiDigit? d).isSome).filterMap asciiDigit?
      if ds.isEmpty then none
      else
        some (Numeral.ofDigits ((ds ++ List.replicate 6 0).take 6), rest.drop ds.length)
    else some (0, cs)
  | [] => some (0, [])

/-- The time of day in front: seconds since midnight and microseconds. -/
def readTime? (cs : List Char) : Option ((Nat × Nat) × List Char) := do
  let (hour, cs) ← readDigits? 2 cs
  guard (cs.head? = some ':')
  let (minute, cs) ← readDigits? 2 (cs.drop 1)
  guard (hour < 24 ∧ minute < 60)
  let start := hour * 3600 + minute * 60
  match cs with
  | ':' :: cs => do
    let (second, cs) ← readDigits? 2 cs
    guard (second < 60)
    let (microsecond, cs) ← readFraction? cs
    return ((start + second, microsecond), cs)
  | cs => return ((start, 0), cs)

/-- The sign of an offset; the mathematical minus is one. -/
def offsetSign? (c : Char) : Option Int :=
  if c = '+' then some 1 else if c = '-' ∨ c = '\u2212' then some (-1) else none

/-- The offset at the end of a text, if there is one: a letter for UTC, or hours and
minutes of less than a day. -/
def readOffset? : List Char → Option (Option Int)
  | [] => some none
  | c :: rest =>
    if c = 'Z' ∨ c = 'z' then if rest.isEmpty then some (some 0) else none
    else do
      let sign ← offsetSign? c
      let (hours, rest) ← readDigits? 2 rest
      let (minutes, rest) ← readDigits? 2 (if rest.head? = some ':' then rest.drop 1 else rest)
      guard (rest.isEmpty ∧ minutes < 60 ∧ hours < 24)
      return some (sign * (hours * 60 + minutes : Nat))

/-- What follows the separator between date and time. -/
def afterSeparator? : List Char → Option (List Char)
  | c :: rest => if c = 'T' ∨ c = 't' ∨ c = ' ' ∨ c = '_' then some rest else none
  | [] => none

/-- Date and time. -/
def readFull? (cs : List Char) : Option Moment := do
  let (date, cs) ← (readDate cs).toOption
  let ((second, microsecond), cs) ← readTime? (← afterSeparator? cs)
  let offset? ← readOffset? cs
  return { date, second, microsecond, offset? }

/-- Larger numbers count milliseconds. -/
def greatestSeconds : Nat := 20000000000

def firstSecond : Int := -62167219200

def lastSecond : Int := 253402300799

/-- The moment, on a clock that shows UTC, so many seconds after the epoch, and
microseconds on top, which may be a whole second or more. -/
def ofSeconds (seconds : Int) (microsecond : Nat) : Except Fault Moment :=
  let seconds := seconds + microsecond / microseconds
  if seconds < firstSecond then .error .tooEarly
  else if lastSecond < seconds then .error .tooLate
  else .ok {
    date := Date.ofDay (seconds.fdiv Instant.secondsPerDay)
    second := (seconds.fmod Instant.secondsPerDay).toNat
    microsecond := microsecond % microseconds
    offset? := some 0 }

/-- The moment so many milliseconds after the epoch, and microseconds on top. -/
def ofMilliseconds (n : Int) (microsecond : Nat) : Except Fault Moment :=
  ofSeconds (n.fdiv 1000) ((n.fmod 1000).toNat * 1000 + microsecond)

def ofNumber (n : Int) : Except Fault Moment :=
  if n.natAbs ≤ greatestSeconds then ofSeconds n 0 else ofMilliseconds n 0

/-- The moment of a binary number: the whole number at or below it, and what is left
to the nearest microsecond. -/
def ofReal : Binary64 → Except Fault Moment
  | .nan => .error .notANumber
  | .infinite negative => .error (if negative then .tooEarly else .tooLate)
  | .finite negative s e =>
    let (num, den) := Binary64.magnitude s e
    let (n, left) := Binary64.split negative s e
    if num ≤ greatestSeconds * den then ofSeconds n (left.nearestMultiple microseconds)
    else ofMilliseconds n (left.nearestMultiple 1000)

/-- A number spelled as text: a whole one, or a binary one, which has a point. -/
inductive Spelled where
  | whole (n : Int)
  | real (x : Binary64)

/-- Read a number spelled as text: a sign and digits, which have to fit into 64 bits,
or a sign and a decimal with a point and possibly an exponent.  What stands before the
point has to fit as well, and may be missing. -/
def readNumber? (cs : List Char) : Option Spelled := do
  let (negative, cs) := Numeral.takeSign cs
  let (digits, fraction?) := splitFirst '.' cs
  let ds ← digits.mapM asciiDigit?
  let n : Int := if negative then -Numeral.ofDigits ds else Numeral.ofDigits ds
  guard (-Int.pow 2 63 ≤ n ∧ n < Int.pow 2 63)
  match fraction? with
  | none => if ds.isEmpty then none else return .whole n
  | some _ => return .real (← Numeral.readDecimal? negative cs)

/-- Read a text that is no date and time: a number, or else a date alone. -/
def readOther (cs : List Char) : Except Fault Moment :=
  match readNumber? cs with
  | some (.whole n) => ofNumber n
  | some (.real x) =>
    match ofReal x with
    | .ok m => .ok m
    | .error _ => readMidnight cs
  | none => readMidnight cs

def ofText (s : String) : Except Fault Moment :=
  match readFull? s.toList with
  | some m => .ok m
  | none => readOther s.toList

end PullRelay.Moment
