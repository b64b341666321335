import PullRelay.Text.Casing

/-!
# Lower case of ASCII texts

The tables of casing hold every script.  Of an ASCII text they give the lower case that core
gives, so that all ways to write a name in letters of either case have the same lower case.
-/

namespace PullRelay.Text

theorem lowerChar_of_ascii {c : Char} (h : c.toNat < 0x80) : lowerChar c = [c.toLower] := by
  have htable : ∀ n < 0x80, lowerChar (Char.ofNat n) = [(Char.ofNat n).toLower] := by
    decide +kernel
  have hc := htable c.toNat h
  rwa [Char.ofNat_toNat] at hc

theorem lowerList_of_ascii {cs : List Char} (h : ∀ c ∈ cs, c.toNat < 0x80)
    (before : List Char) : lowerList before cs = cs.map Char.toLower := by
  induction cs generalizing before with
  | nil => rfl
  | cons c rest ih =>
    obtain ⟨hc, hrest⟩ := List.forall_mem_cons.mp h
    have hsigma : c ≠ 'Σ' := by
      rintro rfl
      exact absurd hc (by decide)
    rw [lowerList, if_neg hsigma, lowerChar_of_ascii hc, ih hrest]
    rfl

/-- Only capital letters of ASCII have another lower case in core. -/
theorem ascii_of_toLower {c : Char} (h : c.toLower.toNat < 0x80) : c.toNat < 0x80 := by
  unfold Char.toLower at h
  split at h
  next hcapital => exact Nat.lt_of_le_of_lt (UInt32.le_iff_toNat_le.mp hcapital.2) (by decide)
  · exact h

theorem lower_of_toLower {s t : String} (ht : t.toList.all (·.toNat < 0x80) = true)
    (h : s.toLower = t) : lower s = t := by
  have hlist : s.toList.map Char.toLower = t.toList := by
    rw [← h]
    exact String.toList_map.symm
  have hascii : ∀ c ∈ s.toList, c.toNat < 0x80 := by
    intro c hc
    have hlower : c.toLower ∈ t.toList := hlist ▸ List.mem_map_of_mem hc
    exact ascii_of_toLower (of_decide_eq_true (List.all_eq_true.mp ht _ hlower))
  rw [lower, lowerList_of_ascii hascii, hlist, String.ofList_toList]

end PullRelay.Text
