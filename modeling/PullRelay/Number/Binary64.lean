/-!
# Binary floating point numbers

A `Binary64` is an exact value: a sign, a significand below `2 ^ 53` and a
binary exponent, or an infinity, or not a number.  Nothing here computes with
machine floats: numbers enter by rounding a ratio of naturals to the nearest
representable value (`ofRatio`, exact halves to the even neighbour), and leave
by comparison with whole numbers or by `truncate?`.
-/

namespace PullRelay

/-- A double precision number, `± significand * 2 ^ exponent` when finite. -/
inductive Binary64 where
  | nan
  | infinite (negative : Bool)
  | finite (negative : Bool) (significand : Nat) (exponent : Int)
deriving DecidableEq, Repr

namespace Binary64

def leastExponent : Int := -1074

def greatestExponent : Int := 971

def zero (negative : Bool) : Binary64 := .finite negative 0 leastExponent

instance : Inhabited Binary64 := ⟨zero false⟩

/-- The ratio `num / den / 2 ^ e` as a numerator and a denominator. -/
def scale (num den : Nat) (e : Int) : Nat × Nat :=
  if 0 ≤ e then (num, den * Nat.pow 2 e.toNat) else (num * Nat.pow 2 (-e).toNat, den)

/-- A ratio rounded to a whole number, an exact half to the even neighbour. -/
def roundEven (num den : Nat) : Nat :=
  let q := num / den
  let r := num % den
  if 2 * r < den then q else if den < 2 * r then q + 1 else q + q % 2

/-- The exponent that leaves 53 bits before the point, or the least exponent.
The difference of the logarithms is right or one too large. -/
def exponentFor (num den : Nat) : Int :=
  let e : Int := (num.log2 : Int) - (den.log2 : Int) - 52
  let scaled := scale num den e
  max leastExponent (if scaled.1 / scaled.2 < Nat.pow 2 52 then e - 1 else e)

/-- The number nearest to `± num / den`; infinite past the largest finite one. -/
def ofRatio (negative : Bool) (num den : Nat) : Binary64 :=
  if num = 0 then zero negative
  else
    let e := exponentFor num den
    let scaled := scale num den e
    let s := roundEven scaled.1 scaled.2
    let carried : Nat × Int := if s = Nat.pow 2 53 then (Nat.pow 2 52, e + 1) else (s, e)
    if greatestExponent < carried.2 then .infinite negative
    else .finite negative carried.1 carried.2

/-- The number of decimal digits of a natural number. -/
def digitCount (n : Nat) : Nat := (Nat.toDigits 10 n).length

/-- The number nearest to `± digits * 10 ^ exponent`.  Exponents far outside the
range are decided by the count of digits, without computing the power. -/
def ofDecimal (negative : Bool) (digits : Nat) (exponent : Int) : Binary64 :=
  if digits = 0 then zero negative
  else if 400 < (digitCount digits : Int) + exponent then .infinite negative
  else if (digitCount digits : Int) + exponent < -400 then zero negative
  else if 0 ≤ exponent then ofRatio negative (digits * Nat.pow 10 exponent.toNat) 1
  else ofRatio negative digits (Nat.pow 10 (-exponent).toNat)

/-- The number nearest to a whole number, unless it is too large for a finite one. -/
def ofInt? (n : Int) : Option Binary64 :=
  match ofRatio (n < 0) n.natAbs 1 with
  | .finite negative s e => some (.finite negative s e)
  | _ => none

def wholePart (s : Nat) (e : Int) : Nat :=
  if 0 ≤ e then s * Nat.pow 2 e.toNat else s / Nat.pow 2 (-e).toNat

def isWhole (s : Nat) (e : Int) : Bool := 0 ≤ e || s % Nat.pow 2 (-e).toNat == 0

/-- The magnitude `significand * 2 ^ exponent` as a numerator and a denominator. -/
def magnitude (s : Nat) (e : Int) : Nat × Nat := scale s 1 (-e)

/-- The greatest whole number at or below a finite number, and the number nearest to
what is left above it, which is one for what is hardly below a whole number. -/
def split (negative : Bool) (s : Nat) (e : Int) : Int × Binary64 :=
  let (num, den) := magnitude s e
  let n : Int := if negative then -num else num
  (n.fdiv den, ofRatio false (n.fmod den).toNat den)

/-- The whole number nearest to a multiple of a number of no sign.  The multiple is
rounded first; a half goes up. -/
def nearestMultiple (x : Binary64) (k : Nat) : Nat :=
  let multiple := match x with
    | .finite _ s e => ofRatio false ((magnitude s e).1 * k) (magnitude s e).2
    | x => x
  match multiple with
  | .finite _ s e => (2 * (magnitude s e).1 + (magnitude s e).2) / (2 * (magnitude s e).2)
  | _ => 0

/-- The whole number next to a finite number on the side of zero. -/
def truncate? : Binary64 → Option Int
  | .finite negative s e => some (if negative then -(wholePart s e : Int) else wholePart s e)
  | _ => none

def equalsInt (x : Binary64) (n : Int) : Bool :=
  match x with
  | .finite _ s e => isWhole s e && x.truncate? == some n
  | _ => false

/-- The number is below this whole number; not a number is below nothing. -/
def belowInt (x : Binary64) (n : Int) : Bool :=
  match x with
  | .nan => false
  | .infinite negative => negative
  | .finite true s e =>
    if isWhole s e then -(wholePart s e : Int) < n else -(wholePart s e : Int) ≤ n
  | .finite false s e => (wholePart s e : Int) < n

/-- The least natural number at or above the number, if there is one. -/
def ceiling? : Binary64 → Option Nat
  | .nan | .infinite false => none
  | .infinite true | .finite true _ _ => some 0
  | .finite false s e => some (if isWhole s e then wholePart s e else wholePart s e + 1)

def isZero : Binary64 → Bool
  | .finite _ s _ => s == 0
  | _ => false

end Binary64

end PullRelay
