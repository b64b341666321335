import PullRelay.Json.Text

/-!
# Reading texts that were printed

A text is read back from its escapes, whatever follows the closing quote
(`readText?_writeText`).  Each character is read as one piece or two (`pieces`), and its pieces
come together as that character again, since no character is half a pair of surrogates.
-/

namespace PullRelay.Json

open PullRelay.Text

theorem hexValue?_digitChar : ∀ n < 16, hexValue? n.digitChar = some n := by decide

/-- The last digit may be written on its own. -/
theorem hexPadded_succ {width : Nat} (hwidth : 0 < width) (n : Nat) :
    hexPadded (width + 1) n = hexPadded width (n / 16) ++ [(n % 16).digitChar] := by
  unfold hexPadded
  dsimp only
  by_cases hn : n < 16
  · have hzero : n / 16 = 0 := by omega
    have hpadding : width = width - 1 + 1 := by omega
    rw [hzero, Nat.mod_eq_of_lt hn, Nat.toDigits_of_lt_base hn, Nat.toDigits_zero,
      List.length_singleton, List.length_singleton, Nat.add_sub_cancel, ← List.replicate_succ',
      ← hpadding]
  · rw [Nat.toDigits_of_base_le (by decide) (Nat.le_of_not_lt hn), List.length_append,
      List.length_singleton, Nat.add_sub_add_right, List.append_assoc]

/-- The four digits of an escape write its unit. -/
theorem exists_unitEscape {n : Nat} (hn : n < 0x10000) :
    ∃ a b c d, unitEscape n = ['\\', 'u', a, b, c, d] ∧ unit? a b c d = some n := by
  have hfirst : n / 16 / 16 / 16 < 16 := by omega
  have hdigits : hexPadded 4 n = [(n / 16 / 16 / 16).digitChar, (n / 16 / 16 % 16).digitChar,
      (n / 16 % 16).digitChar, (n % 16).digitChar] := by
    rw [hexPadded_succ (by decide), hexPadded_succ (by decide), hexPadded_succ (by decide),
      hexPadded, Nat.toDigits_of_lt_base hfirst]
    rfl
  refine ⟨_, _, _, _, congrArg (fun digits ↦ '\\' :: 'u' :: digits) hdigits, ?_⟩
  have hsum : ((n / 16 / 16 / 16 * 16 + n / 16 / 16 % 16) * 16 + n / 16 % 16) * 16 + n % 16 = n := by
    omega
  simp only [unit?, hexValue?_digitChar _ hfirst,
    hexValue?_digitChar _ (Nat.mod_lt _ (by decide : 0 < 16)), Option.bind_eq_bind,
    Option.bind_some, Option.pure_def, hsum]

theorem readPieces?_unitEscape {n : Nat} (hn : n < 0x10000) (rest : List Char) :
    readPieces? (unitEscape n ++ rest) =
      (readPieces? rest).map fun r ↦ (.unit n :: r.1, r.2) := by
  obtain ⟨a, b, c, d, hescape, hunit⟩ := exists_unitEscape hn
  rw [hescape]
  simp only [List.cons_append, List.nil_append, readPieces?, Char.reduceEq, if_false, if_true,
    hunit]

/-- The letters of the short escapes are read as what they stand for. -/
theorem shortEscape?_of_mem : ∀ p ∈ shortEscapes, p.2 ≠ 'u' ∧ shortEscape? p.2 = some p.1 := by
  decide

theorem readPieces?_short {letter plain : Char} (hletter : letter ≠ 'u')
    (h : shortEscape? letter = some plain) (rest : List Char) :
    readPieces? ('\\' :: letter :: rest) =
      (readPieces? rest).map fun r ↦ (.char plain :: r.1, r.2) := by
  rw [readPieces?, if_neg (by decide), if_pos rfl, h]
  rintro x y z w more rfl
  exact absurd rfl hletter

/-- The halves of the pair that is written for a character past the first plane. -/
def surrogates (c : Char) : Nat × Nat :=
  (0xD800 + (c.toNat - 0x10000) / 0x400, 0xDC00 + (c.toNat - 0x10000) % 0x400)

/-- The pieces that a written character is read as. -/
def pieces (c : Char) : List Piece :=
  if (shortEscapes.lookup c).isSome ∨ (0x20 ≤ c.toNat ∧ c.toNat < 0x7F) then [.char c]
  else if c.toNat < 0x10000 then [.unit c.toNat]
  else [.unit (surrogates c).1, .unit (surrogates c).2]

theorem surrogates_spec {c : Char} (hc : 0x10000 ≤ c.toNat) :
    isHigh (surrogates c).1 = true ∧ isLow (surrogates c).2 = true := by
  have hvalid : c.toNat < 0xD800 ∨ 0xDFFF < c.toNat ∧ c.toNat < 0x110000 := c.valid
  unfold isHigh isLow surrogates
  dsimp only
  simp only [Bool.and_eq_true, decide_eq_true_eq]
  omega

theorem lt_of_isHigh {n : Nat} (h : isHigh n = true) : n < 0x10000 := by
  simp only [isHigh, Bool.and_eq_true, decide_eq_true_eq] at h
  omega

theorem lt_of_isLow {n : Nat} (h : isLow n = true) : n < 0x10000 := by
  simp only [isLow, Bool.and_eq_true, decide_eq_true_eq] at h
  omega

/-- A written character is read as its pieces. -/
theorem readPieces?_writeChar (c : Char) (rest : List Char) :
    readPieces? (writeChar c ++ rest) =
      (readPieces? rest).map fun r ↦ (pieces c ++ r.1, r.2) := by
  unfold writeChar pieces
  cases hlookup : shortEscapes.lookup c with
  | some letter =>
    obtain ⟨before, after, hmem, -⟩ := List.lookup_eq_some_iff.mp hlookup
    obtain ⟨hletter, hshort⟩ := shortEscape?_of_mem (c, letter)
      (hmem ▸ List.mem_append_right _ List.mem_cons_self)
    exact readPieces?_short hletter hshort rest
  | none =>
    by_cases hprintable : 0x20 ≤ c.toNat ∧ c.toNat < 0x7F
    · have hquote : c ≠ '"' := by
        rintro rfl
        cases hlookup
      have hbackslash : c ≠ '\\' := by
        rintro rfl
        cases hlookup
      rw [if_pos hprintable, if_pos (.inr hprintable)]
      rw [List.singleton_append, readPieces?.eq_def]
      simp only [hquote, hbackslash, if_false, Nat.not_lt.mpr hprintable.1]
      rfl
    · have hescaped : ¬((none : Option Char).isSome = true ∨ 0x20 ≤ c.toNat ∧ c.toNat < 0x7F) :=
        fun h ↦ hprintable (h.resolve_left Bool.false_ne_true)
      rw [if_neg hprintable, if_neg hescaped]
      by_cases hplane : c.toNat < 0x10000
      · have hescape : charEscape c = unitEscape c.toNat := if_pos hplane
        rw [hescape, if_pos hplane]
        exact readPieces?_unitEscape hplane rest
      · have hescape : charEscape c =
            unitEscape (surrogates c).1 ++ unitEscape (surrogates c).2 := if_neg hplane
        obtain ⟨hhigh, hlow⟩ := surrogates_spec (Nat.le_of_not_lt hplane)
        rw [hescape, if_neg hplane, List.append_assoc, readPieces?_unitEscape (lt_of_isHigh hhigh),
          readPieces?_unitEscape (lt_of_isLow hlow), Option.map_map]
        rfl

/-- A unit that begins no pair is a character of its own. -/
theorem combine_unit {n : Nat} (hn : isHigh n = false) (ps : List Piece) :
    combine (.unit n :: ps) = unitChar n :: combine ps := by
  cases ps with
  | nil => rfl
  | cons p ps =>
    cases p with
    | char c => rfl
    | unit m => simp only [combine, hn, Bool.false_and, Bool.false_eq_true, if_false]

/-- The pieces of a character come together as the character. -/
theorem combine_pieces (c : Char) (ps : List Piece) :
    combine (pieces c ++ ps) = c :: combine ps := by
  have hchar : Char.ofNat c.toNat = c := Char.ofNat_toNat c
  have hvalid : c.toNat < 0xD800 ∨ 0xDFFF < c.toNat ∧ c.toNat < 0x110000 := c.valid
  unfold pieces
  split
  · rfl
  · split
    next hplane =>
      have hhigh : isHigh c.toNat = false := by
        simp only [isHigh, Bool.and_eq_false_iff, decide_eq_false_iff_not]
        omega
      have hlow : isLow c.toNat = false := by
        simp only [isLow, Bool.and_eq_false_iff, decide_eq_false_iff_not]
        omega
      rw [List.singleton_append, combine_unit hhigh, unitChar, hhigh, hlow, hchar]
      rfl
    next hplane =>
      obtain ⟨hhigh, hlow⟩ := surrogates_spec (Nat.le_of_not_lt hplane)
      have hsum : 0x10000 + ((surrogates c).1 - 0xD800) * 0x400 + ((surrogates c).2 - 0xDC00) =
          c.toNat := by
        simp only [surrogates]
        omega
      simp only [List.cons_append, List.nil_append, combine, hhigh, hlow, Bool.and_self, if_true, hsum,
        hchar]

theorem readPieces?_write (cs rest : List Char) :
    readPieces? (cs.flatMap writeChar ++ '"' :: rest) = some (cs.flatMap pieces, rest) := by
  induction cs with
  | nil =>
    rw [List.flatMap_nil, List.nil_append, readPieces?.eq_def]
    rfl
  | cons c cs ih =>
    rw [List.flatMap_cons, List.append_assoc, readPieces?_writeChar, ih]
    rfl

theorem combine_flatMap_pieces (cs : List Char) : combine (cs.flatMap pieces) = cs := by
  induction cs with
  | nil => rfl
  | cons c cs ih => rw [List.flatMap_cons, combine_pieces, ih]

/-- After its first quote, a text that was written is read as the text. -/
theorem readText?_writeText (s : String) (rest : List Char) :
    ∃ after, writeText s ++ rest = '"' :: after ∧ readText? after = some (s, rest) := by
  refine ⟨s.toList.flatMap writeChar ++ '"' :: rest, by simp [writeText], ?_⟩
  rw [readText?, readPieces?_write, Option.map_some, combine_flatMap_pieces, String.ofList_toList]

end PullRelay.Json
