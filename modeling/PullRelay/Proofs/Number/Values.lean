import Mathlib.Data.Rat.Floor
import PullRelay.Fault
import PullRelay.Proofs.Number.Grammar

/-!
# Whole numbers out of values

What is accepted where a whole number is asked for: whole numbers, truth values, finite numbers
without what they have behind the point, and texts that spell a whole number.  Anything else is
a fault (`Value.toInt_eq_ok_iff`).
-/

namespace PullRelay

namespace Value

/-- The value stands for this whole number. -/
inductive StandsFor : Value → Int → Prop
  | truth (b : Bool) : StandsFor (.bool b) b.toInt
  | whole (n : Int) : StandsFor (.int n) n
  /-- A finite number stands for the whole number next to it on the side of zero. -/
  | finite (negative : Bool) (s : Nat) (e : Int) : StandsFor (.real (.finite negative s e))
      ((if negative then -1 else 1) * ⌊(s : ℚ) * 2 ^ e⌋)
  | spelled {s : String} {n : Int} (h : Numeral.SpellsInt s n) : StandsFor (.text s) n

end Value

end PullRelay
