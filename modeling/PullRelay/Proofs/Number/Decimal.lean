import Mathlib.Algebra.Group.Nat.Defs
import Mathlib.Data.List.TakeWhile
import PullRelay.Number.Numeral
import PullRelay.Proofs.Text.Pieces

/-!
# Whole numbers in decimal

A whole number that is written in decimal is read as itself, unless it has more digits than
a numeral may have (`readInt_toString`); and no number with more of them is ever read
(`isReadable_of_readInt`).
-/

namespace PullRelay.Numeral

open Text

theorem isReadable_iff {n : Int} : IsReadable n ↔ n.natAbs < 10 ^ digitLimit := by
  rw [IsReadable, Nat.pow_eq]

theorem isReadable_of_lt_pow {n : Int} (k : Nat) (h : n.natAbs < 10 ^ k)
    (hk : k ≤ digitLimit) : IsReadable n :=
  isReadable_iff.mpr (Nat.lt_of_lt_of_le h (Nat.pow_le_pow_right (by decide) hk))

theorem lt_of_asciiDigit? {c : Char} {d : Nat} (h : asciiDigit? c = some d) : d < 10 := by
  unfold asciiDigit? at h
  split at h
  · cases h
    omega
  · cases h

theorem lt_of_mapM_asciiDigit? {cs : List Char} {ds : List Nat}
    (h : cs.mapM asciiDigit? = some ds) : ∀ d ∈ ds, d < 10 := by
  induction cs generalizing ds with
  | nil =>
    cases h
    simp
  | cons c cs ih =>
    rw [List.mapM_cons] at h
    obtain ⟨d, hd, h⟩ := Option.bind_eq_some_iff.mp h
    obtain ⟨ds, hds, h⟩ := Option.bind_eq_some_iff.mp h
    cases h
    exact List.forall_mem_cons.mpr ⟨lt_of_asciiDigit? hd, ih hds⟩

theorem foldl_digits_lt {ds : List Nat} (h : ∀ d ∈ ds, d < 10) (n : Nat) :
    ds.foldl (fun n d ↦ 10 * n + d) n < (n + 1) * 10 ^ ds.length := by
  induction ds generalizing n with
  | nil => simp
  | cons d ds ih =>
    obtain ⟨hd, hds⟩ := List.forall_mem_cons.mp h
    rw [List.foldl_cons, List.length_cons]
    calc ds.foldl (fun n d ↦ 10 * n + d) (10 * n + d)
        < (10 * n + d + 1) * 10 ^ ds.length := ih hds _
      _ ≤ ((n + 1) * 10) * 10 ^ ds.length := Nat.mul_le_mul_right _ (by omega)
      _ = (n + 1) * 10 ^ (ds.length + 1) := by rw [Nat.mul_assoc, Nat.pow_succ']

/-- Digits write a number with no more of them. -/
theorem ofDigits_lt {ds : List Nat} (h : ∀ d ∈ ds, d < 10) : ofDigits ds < 10 ^ ds.length := by
  have hbound := foldl_digits_lt h 0
  rwa [Nat.zero_add, Nat.one_mul] at hbound

theorem isReadable_of_readInt {s : String} {n : Int} (h : readInt s = .ok n) : IsReadable n := by
  simp only [readInt] at h
  split at h
  · cases h
  next ds hds =>
    split at h
    · cases h
    next hlimit =>
      have hdigits : ∀ d ∈ ds, d < 10 := by
        unfold runDigits? at hds
        dsimp only at hds
        split at hds
        · exact lt_of_mapM_asciiDigit? hds
        · cases hds
      have hbound := ofDigits_lt hdigits
      have hlength := Nat.not_lt.mp hlimit
      split at h
      · cases h
        split
        · exact isReadable_of_lt_pow _ (by rwa [Int.natAbs_neg, Int.natAbs_natCast]) hlength
        · exact isReadable_of_lt_pow _ (by rwa [Int.natAbs_natCast]) hlength
      · cases h

section Run

variable {c : Char} {ds : List Char}

theorem bounds_of_isDigit (h : c.isDigit = true) : 0x30 ≤ c.toNat ∧ c.toNat ≤ 0x39 :=
  Char.isDigit_iff_toNat.mp h

theorem asciiDigit?_of_isDigit (h : c.isDigit = true) :
    asciiDigit? c = some (c.toNat - 0x30) := if_pos (bounds_of_isDigit h)

theorem isRunChar_of_isDigit (h : c.isDigit = true) : isRunChar c = true := by
  rw [isRunChar, asciiDigit?_of_isDigit h]
  rfl

theorem isNumeralBlank_of_isDigit (h : c.isDigit = true) : isNumeralBlank c = false := by
  have hbounds := bounds_of_isDigit h
  have hspace : c ≠ ' ' := by
    rintro rfl
    cases h
  simp only [isNumeralBlank, beq_eq_false_iff_ne.mpr hspace, Bool.false_or, Bool.and_eq_false_iff,
    decide_eq_false_iff_not]
  omega

theorem asciiNumeralChar?_of_isDigit (h : c.isDigit = true) : asciiNumeralChar? c = some c := by
  have hbounds := bounds_of_isDigit h
  exact if_pos (by omega)

theorem mapM_asciiDigit? (h : ∀ c ∈ ds, c.isDigit = true) :
    ds.mapM asciiDigit? = some (ds.map fun c ↦ c.toNat - 0x30) := by
  induction ds with
  | nil => rfl
  | cons c ds ih =>
    obtain ⟨hc, hds⟩ := List.forall_mem_cons.mp h
    rw [List.mapM_cons, asciiDigit?_of_isDigit hc, ih hds]
    rfl

theorem runDigits?_of_isDigit (hne : ds ≠ []) (h : ∀ c ∈ ds, c.isDigit = true) :
    runDigits? ds = some (ds.map fun c ↦ c.toNat - 0x30) := by
  have hunderscore : '_' ∉ ds := fun hmem ↦ absurd (h _ hmem) (by decide)
  have hpiece : [ds].all (!·.isEmpty) = true := by simpa using hne
  rw [runDigits?, splitAll_of_notMem hunderscore]
  simp only [hpiece, if_true, List.flatten_singleton]
  exact mapM_asciiDigit? h

/-- Digits, with a minus in front of them if they are to be negative. -/
def signed (negative : Bool) (ds : List Char) : List Char := if negative then '-' :: ds else ds

theorem takeSign_signed (h : ∀ c ∈ ds, c.isDigit = true) (negative : Bool) :
    takeSign (signed negative ds) = (negative, ds) := by
  cases negative with
  | true => rfl
  | false =>
    simp only [signed, Bool.false_eq_true, if_false]
    unfold takeSign
    split
    · exact absurd (h '-' List.mem_cons_self) (by decide)
    · exact absurd (h '+' List.mem_cons_self) (by decide)
    · rfl

theorem ascii_signed (h : ∀ c ∈ ds, c.isDigit = true) (negative : Bool) :
    ascii (String.ofList (signed negative ds)) = signed negative ds := by
  have hdigits : ds.map (fun c ↦ (asciiNumeralChar? c).getD '?') = ds := by
    refine (List.map_congr_left fun c hc ↦ ?_).trans (List.map_id ds)
    rw [asciiNumeralChar?_of_isDigit (h c hc)]
    rfl
  rw [ascii, String.toList_ofList]
  cases negative with
  | true => exact congrArg ('-' :: ·) hdigits
  | false => exact hdigits

theorem dropWhile_signed (h : ∀ c ∈ ds, c.isDigit = true) (negative : Bool) :
    (signed negative ds).dropWhile isNumeralBlank = signed negative ds := by
  cases negative with
  | true => rfl
  | false =>
    cases ds with
    | nil => rfl
    | cons c ds =>
      refine List.dropWhile_cons_of_neg ?_
      rw [isNumeralBlank_of_isDigit (h c List.mem_cons_self)]
      exact Bool.false_ne_true

/-- Digits write the number that core takes them for. -/
theorem ofDigits_eq_ofDigitChars (ds : List Char) :
    ofDigits (ds.map fun c ↦ c.toNat - 0x30) = Nat.ofDigitChars 10 ds 0 := by
  rw [ofDigits, List.foldl_map, Nat.ofDigitChars_eq_foldl]
  rfl

theorem readInt_signed (hne : ds ≠ []) (h : ∀ c ∈ ds, c.isDigit = true)
    (hlength : ds.length ≤ digitLimit) (negative : Bool) :
    readInt (String.ofList (signed negative ds)) =
      .ok (if negative then -(Nat.ofDigitChars 10 ds 0 : Int) else Nat.ofDigitChars 10 ds 0) := by
  have hrun (c) (hc : c ∈ ds) := isRunChar_of_isDigit (h c hc)
  have htake : ds.takeWhile isRunChar = ds := List.takeWhile_eq_self_iff.mpr hrun
  have hdrop : ds.dropWhile isRunChar = [] := List.dropWhile_eq_nil_iff.mpr hrun
  rw [readInt, ascii_signed h, dropWhile_signed h, takeSign_signed h]
  simp only [htake, hdrop, runDigits?_of_isDigit hne h, List.length_map,
    if_neg (Nat.not_lt.mpr hlength), List.all_nil, if_true, ofDigits_eq_ofDigitChars]

end Run

/-- The digits of a number begin with a zero only if there is no other digit. -/
theorem exists_toDigits_cons (m : Nat) :
    ∃ d ds, Nat.toDigits 10 m = d :: ds ∧ (d = '0' → ds = []) := by
  induction m using Nat.strongRecOn with
  | ind m ih =>
    by_cases hm : m < 10
    · exact ⟨m.digitChar, [], Nat.toDigits_of_lt_base hm, fun _ ↦ rfl⟩
    · obtain ⟨d, ds, hdigits, hzero⟩ := ih (m / 10) (by omega)
      refine ⟨d, ds ++ [(m % 10).digitChar], ?_, fun hd ↦ ?_⟩
      · rw [Nat.toDigits_of_base_le (by decide) (Nat.le_of_not_lt hm), hdigits, List.cons_append]
      · -- A zero alone would be the number zero, but there are ten at least.
        have hvalue := @Nat.ofDigitChars_ten_toDigits (m / 10)
        rw [hdigits, hzero hd, hd] at hvalue
        have : m / 10 = 0 := hvalue.symm
        omega

theorem toString_eq (n : Int) :
    toString n = String.ofList (signed (decide (n < 0)) (Nat.toDigits 10 n.natAbs)) := by
  cases n with
  | ofNat m =>
    have hsign : decide (Int.ofNat m < 0) = false := decide_eq_false (by simp)
    rw [hsign]
    exact Nat.toString_eq_ofList_toDigits
  | negSucc m =>
    have hsign : decide (Int.negSucc m < 0) = true := decide_eq_true (Int.negSucc_lt_zero m)
    rw [hsign, signed, if_pos rfl, String.ofList_cons]
    exact congrArg ("-" ++ ·) Nat.toString_eq_ofList_toDigits

/-- The sign belongs to the number. -/
theorem signed_natAbs (n : Int) :
    (if decide (n < 0) = true then -(n.natAbs : Int) else n.natAbs) = n := by
  by_cases hn : n < 0
  · rw [if_pos (decide_eq_true hn)]
    omega
  · rw [if_neg (by simpa using hn)]
    omega

/-- A number that is not too long is read as it is written. -/
theorem readInt_toString {n : Int} (h : IsReadable n) : readInt (toString n) = .ok n := by
  have hdigits (c) (hc : c ∈ Nat.toDigits 10 n.natAbs) : c.isDigit = true :=
    Nat.isDigit_of_mem_toDigits (by decide) (by decide) hc
  have hlength := (Nat.length_toDigits_le_iff (by decide) (by decide)).mpr (isReadable_iff.mp h)
  rw [toString_eq, readInt_signed Nat.toDigits_ne_nil hdigits hlength,
    Nat.ofDigitChars_ten_toDigits, signed_natAbs]

end PullRelay.Numeral
