/-!
# Sets of characters

A `CharSet` lists inclusive ranges of code points; the tables of character
properties are written with it.
-/

namespace PullRelay.Text

/-- A set of characters, as inclusive ranges of code points. -/
structure CharSet where
  ranges : List (Nat × Nat)

namespace CharSet

/-- The character lies in one of the ranges. -/
def contains (s : CharSet) (c : Char) : Bool :=
  s.ranges.any fun r ↦ r.1 ≤ c.toNat && c.toNat ≤ r.2

/-- Membership is being between the ends of some range. -/
theorem contains_iff {s : CharSet} {c : Char} :
    s.contains c ↔ ∃ r ∈ s.ranges, r.1 ≤ c.toNat ∧ c.toNat ≤ r.2 := by
  simp [contains]

end CharSet

end PullRelay.Text
