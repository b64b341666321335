import PullRelay.Number.Binary64

/-!
# Shortest decimal text of a binary number

`shortest` finds, for a finite number, the decimal with the fewest digits that
rounds back to it, and among those the nearest.  On each decimal grid only the
two neighbours of the number have to be tried: if any point of the grid rounds
back to the number, one of these does.  `Layout` holds the decisions that turn
the digits into text.
-/

namespace PullRelay.Binary64

structure Decimal where
  digits : Nat
  exponent : Int
deriving DecidableEq, Repr

namespace Decimal

def ratio (d : Decimal) : Nat × Nat :=
  if 0 ≤ d.exponent then (d.digits * Nat.pow 10 d.exponent.toNat, 1)
  else (d.digits, Nat.pow 10 (-d.exponent).toNat)

end Decimal

/-- The exponent of the first significant digit of a positive ratio. -/
def leadingExponent (num den : Nat) : Int :=
  if den ≤ num then (digitCount (num / den) : Int) - 1
  else
    let k := digitCount (den / num)
    if den ≤ num * Nat.pow 10 (k - 1) then 1 - (k : Int) else -(k : Int)

/-- The ratio in units of `10 ^ u`, as a numerator and a denominator. -/
def inUnits (num den : Nat) (u : Int) : Nat × Nat :=
  if 0 ≤ u then (num, den * Nat.pow 10 u.toNat) else (num * Nat.pow 10 (-u).toNat, den)

/-- The point `q * 10 ^ u` of the grid rounds to `significand * 2 ^ exponent`. -/
def readsBack (s : Nat) (e : Int) (q : Nat) (u : Int) : Bool :=
  let r := (Decimal.mk q u).ratio
  ofRatio false r.1 r.2 == .finite false s e

/-- The better neighbour on the grid of `count` significant digits, if one of
them rounds back; at equal distance the even one. -/
def onGrid (s : Nat) (e : Int) (num den : Nat) (count : Nat) : Option Decimal :=
  let u := leadingExponent num den - count + 1
  let scaled := inUnits num den u
  let q := scaled.1 / scaled.2
  let r := scaled.1 % scaled.2
  let low := readsBack s e q u
  let high := readsBack s e (q + 1) u
  if low && high then
    if 2 * r < scaled.2 || (2 * r == scaled.2 && q % 2 == 0) then some ⟨q, u⟩ else some ⟨q + 1, u⟩
  else if low then some ⟨q, u⟩
  else if high then some ⟨q + 1, u⟩
  else none

/-- The shortest decimal that rounds to `significand * 2 ^ exponent`.  Seventeen
digits always suffice. -/
def shortest (s : Nat) (e : Int) : Decimal :=
  let r := if 0 ≤ e then (s * Nat.pow 2 e.toNat, 1) else (s, Nat.pow 2 (-e).toNat)
  ((List.range 17).findSome? fun n ↦ onGrid s e r.1 r.2 (n + 1)).getD ⟨s, e⟩

/-- How digits become text. -/
structure Layout where
  /-- First digits from this exponent on are written without an exponent … -/
  leastPositional : Int := -4
  /-- … and up to this one. -/
  greatestPositional : Int := 15
  /-- The least number of digits of an exponent. -/
  exponentWidth : Nat := 2
  nanText : String := "nan"
  infinityText : String := "inf"

/-- Digits of a number without trailing zeros, at least one. -/
def significantDigits (n : Nat) : List Char :=
  match ((Nat.toDigits 10 n).reverse.dropWhile (· == '0')).reverse with
  | [] => ['0']
  | ds => ds

/-- Digits whose first has exponent `p`, with the point written in place. -/
def positional (ds : List Char) (p : Int) : List Char :=
  if p < 0 then '0' :: '.' :: List.replicate (-p - 1).toNat '0' ++ ds
  else
    let before := p.toNat + 1
    if ds.length ≤ before then ds ++ List.replicate (before - ds.length) '0' ++ ['.', '0']
    else ds.take before ++ '.' :: ds.drop before

/-- Digits whose first has exponent `p`, with the exponent written after them. -/
def scientific (width : Nat) (ds : List Char) (p : Int) : List Char :=
  let mantissa :=
    match ds with
    | [] => []
    | [d] => [d]
    | d :: rest => d :: '.' :: rest
  let exponent := Nat.toDigits 10 p.natAbs
  mantissa ++ 'e' :: (if p < 0 then '-' else '+')
    :: List.replicate (width - exponent.length) '0' ++ exponent

def Layout.text (l : Layout) : Binary64 → String
  | .nan => l.nanText
  | .infinite negative => if negative then "-" ++ l.infinityText else l.infinityText
  | .finite negative s e =>
    let body :=
      if s = 0 then ['0', '.', '0']
      else
        let d := shortest s e
        let ds := significantDigits d.digits
        let p := d.exponent + digitCount d.digits - 1
        if l.leastPositional ≤ p ∧ p ≤ l.greatestPositional then positional ds p
        else scientific l.exponentWidth ds p
    String.ofList (if negative then '-' :: body else body)

end PullRelay.Binary64
