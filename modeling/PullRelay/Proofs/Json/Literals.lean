import PullRelay.Json.Reader
import PullRelay.Proofs.Number.Grammar

/-!
# Reading words and numbers that were printed

A whole number is read back if it is not too long and nothing follows that could belong to it
(`readNumber?_toString`).  No word is in the way, for none begins as a number does.
-/

namespace PullRelay.Json

open PullRelay.Text Numeral

/-- What may follow a value: nothing, a comma or a line break. -/
def Ends (rest : List Char) : Prop := ∀ c ∈ rest.head?, c = ',' ∨ c = '\n'

theorem ne_of_isDigit {c d : Char} (hd : d.isDigit = true) (hc : c.isDigit = false) : d ≠ c := by
  rintro rfl
  exact Bool.false_ne_true (hc.symm.trans hd)

/-- No word begins with a digit, or with a digit after a minus. -/
theorem words_head : ∀ w ∈ words, ∃ c more, w.1.toList = c :: more ∧ c.isDigit = false ∧
    (c = '-' → ∃ d further, more = d :: further ∧ d.isDigit = false) := by
  simp only [words, List.forall_mem_cons, List.not_mem_nil, false_imp_iff, implies_true, and_true]
  exact ⟨⟨'n', _, rfl, rfl, nofun⟩, ⟨'t', _, rfl, rfl, nofun⟩, ⟨'f', _, rfl, rfl, nofun⟩,
    ⟨'N', _, rfl, rfl, nofun⟩, ⟨'I', _, rfl, rfl, nofun⟩,
    ⟨'-', _, rfl, rfl, fun _ ↦ ⟨'I', _, rfl, rfl⟩⟩⟩

theorem readWord?_signed {d : Char} (hd : d.isDigit = true) (negative : Bool)
    (rest : List Char) : readWord? (signed negative (d :: rest)) = none := by
  refine List.findSome?_eq_none_iff.mpr fun w hw ↦ ?_
  obtain ⟨c, more, hword, hc, hminus⟩ := words_head w hw
  have hprefix : ¬w.1.toList.isPrefixOf (signed negative (d :: rest)) = true := by
    rw [List.isPrefixOf_iff_prefix, hword]
    rintro ⟨after, hafter⟩
    cases negative with
    | false =>
      obtain ⟨rfl, -⟩ := List.cons.inj hafter
      exact Bool.false_ne_true (hc.symm.trans hd)
    | true =>
      obtain ⟨rfl, hmore⟩ := List.cons.inj hafter
      obtain ⟨e, further, rfl, he⟩ := hminus rfl
      obtain ⟨rfl, -⟩ := List.cons.inj hmore
      exact Bool.false_ne_true (he.symm.trans hd)
  rw [afterWord?, if_neg hprefix]
  rfl

theorem takeMinus_signed {d : Char} (hd : d.isDigit = true) (negative : Bool) (rest : List Char) :
    takeMinus (signed negative (d :: rest)) = (negative, d :: rest) := by
  cases negative with
  | true => rfl
  | false => simp [signed, takeMinus, ne_of_isDigit hd (rfl : '-'.isDigit = false)]

/-- The digits of a number are read up to what follows them. -/
theorem readWhole?_toDigits (m : Nat) {rest : List Char} (hrest : Ends rest) :
    readWhole? (Nat.toDigits 10 m ++ rest) = some (Nat.toDigits 10 m, rest) := by
  have hdigit (c) (hc : c ∈ Nat.toDigits 10 m) : isDigit c = true :=
    (isSome_asciiDigit? c).trans (Nat.isDigit_of_mem_toDigits (by decide) (by decide) hc)
  have hstop (c) (hc : c ∈ rest.head?) : isDigit c = false := by
    obtain rfl | rfl := hrest c hc
    all_goals rfl
  have hspan := span_append hdigit hstop
  obtain ⟨d, ds, hdigits, hzero⟩ := exists_toDigits_cons m
  rw [hdigits] at hdigit hspan ⊢
  rw [List.cons_append, readWhole?]
  by_cases hd : d = '0'
  · rw [if_pos hd, hzero hd, hd]
    rfl
  · rw [if_neg hd, if_pos (hdigit d List.mem_cons_self), ← List.cons_append, spanDigits, hspan.1,
      hspan.2]

theorem readFraction_of_ends {rest : List Char} (hrest : Ends rest) :
    readFraction rest = ([], rest) := by
  unfold readFraction
  split
  · obtain h | h := hrest '.' rfl
    all_goals cases h
  · rfl

theorem readExponent_of_ends {rest : List Char} (hrest : Ends rest) :
    readExponent rest = (none, rest) := by
  cases rest with
  | nil => rfl
  | cons c rest =>
    have hc : ¬(c = 'e' ∨ c = 'E') := by
      obtain rfl | rfl := hrest c rfl
      all_goals decide
    rw [readExponent, if_neg hc]

/-- The text of a number is its digits, with a minus in front of them if it is below zero. -/
theorem exists_toList_toString (n : Int) (rest : List Char) :
    ∃ d ds, d.isDigit = true ∧ Nat.toDigits 10 n.natAbs = d :: ds ∧
      (toString n).toList ++ rest = signed (decide (n < 0)) (d :: (ds ++ rest)) := by
  obtain ⟨d, ds, hdigits, -⟩ := exists_toDigits_cons n.natAbs
  have hmem : d ∈ Nat.toDigits 10 n.natAbs := hdigits ▸ List.mem_cons_self
  refine ⟨d, ds, Nat.isDigit_of_mem_toDigits (by decide) (by decide) hmem, hdigits, ?_⟩
  rw [toString_eq, String.toList_ofList, hdigits]
  cases decide (n < 0) <;> rfl

/-- So it begins with a minus or with a digit. -/
theorem exists_toString_cons (n : Int) (rest : List Char) :
    ∃ c cs, (toString n).toList ++ rest = c :: cs ∧ (c = '-' ∨ c.isDigit = true) ∧
      readWord? (c :: cs) = none := by
  obtain ⟨d, ds, hd, -, htext⟩ := exists_toList_toString n rest
  have hword := readWord?_signed hd (decide (n < 0)) (ds ++ rest)
  rw [htext]
  generalize decide (n < 0) = negative at hword ⊢
  cases negative with
  | true => exact ⟨'-', _, rfl, .inl rfl, hword⟩
  | false => exact ⟨d, _, rfl, .inr hd, hword⟩

theorem readNumber?_toString {n : Int} (hn : IsReadable n) {rest : List Char} (hrest : Ends rest) :
    readNumber? ((toString n).toList ++ rest) = some (.int n, rest) := by
  have hwhole := readWhole?_toDigits n.natAbs hrest
  have hlength : ¬digitLimit < (Nat.toDigits 10 n.natAbs).length :=
    Nat.not_lt.mpr ((Nat.length_toDigits_le_iff (by decide) (by decide)).mpr (isReadable_iff.mp hn))
  have hvalue : ofDigits ((Nat.toDigits 10 n.natAbs).filterMap asciiDigit?) = n.natAbs := by
    have hdigit (c) (hc : c ∈ Nat.toDigits 10 n.natAbs) :
        asciiDigit? c = some (c.toNat - 0x30) :=
      asciiDigit?_of_isDigit (Nat.isDigit_of_mem_toDigits (by decide) (by decide) hc)
    rw [List.filterMap_congr hdigit, List.filterMap_eq_map', ofDigits_eq_ofDigitChars,
      Nat.ofDigitChars_ten_toDigits]
  obtain ⟨d, ds, hd, hdigits, htext⟩ := exists_toList_toString n rest
  rw [htext, readNumber?, takeMinus_signed hd, ← List.cons_append, ← hdigits]
  simp only [hwhole, Option.bind_eq_bind, Option.bind_some, readFraction_of_ends hrest,
    readExponent_of_ends hrest, List.append_nil, hvalue, List.isEmpty_nil, Option.isNone_none,
    Bool.and_self, if_true, hlength, if_false, signed_natAbs]

end PullRelay.Json
