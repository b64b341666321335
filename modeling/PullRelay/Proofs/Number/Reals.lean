import PullRelay.Proofs.Number.Grammar
import PullRelay.Proofs.Text.Casing

/-!
# The grammar of real numbers

What the reader of real numbers accepts, said without it: a text spells a real number if it is a
sign and a decimal or a name with blanks around them, and underscores may group digits.
`readReal?` reads just the texts that spell one (`readReal?_eq_some_iff`).
-/

namespace PullRelay.Numeral

open Text

/-! ## The grammar -/

/-- The exponent of ten after a decimal, which may be missing. -/
inductive Exponent : List Char → Int → Prop
  | none : Exponent [] 0
  | some {letter sign negative ds} (hletter : letter = 'e' ∨ letter = 'E')
      (hsign : Sign sign negative) (hds : Digits ds) :
      Exponent (letter :: (sign ++ ds)) (signedValue negative ds)

/-- Digits, with a point before, among or after them or without one, and an exponent. -/
inductive Decimal (negative : Bool) : List Char → Binary64 → Prop
  | mk {whole point fraction exponent e} (hds : Digits (whole ++ fraction))
      (hpoint : point = ['.'] ∨ point = [] ∧ fraction = []) (he : Exponent exponent e) :
      Decimal negative (whole ++ (point ++ (fraction ++ exponent)))
        (.ofDecimal negative (Nat.ofDigitChars 10 (whole ++ fraction) 0) (e - fraction.length))

/-- The characters are a name, in letters of either case. -/
def IsNamed (name : String) (cs : List Char) : Prop := cs.map Char.toLower = name.toList

/-- The numeral of a real number, after its sign. -/
inductive Real (negative : Bool) : List Char → Binary64 → Prop
  | infinite {cs} (h : IsNamed "inf" cs ∨ IsNamed "infinity" cs) :
      Real negative cs (.infinite negative)
  | nan {cs} (h : IsNamed "nan" cs) : Real negative cs .nan
  | decimal {cs x} (h : Decimal negative cs x) : Real negative cs x

/-- The text is a numeral of this real number. -/
def SpellsReal (s : String) (x : Binary64) : Prop :=
  ∃ negative cs, Holds s negative cs ∧ Real negative cs x

/-! ## Parts of real numbers -/

section Real

variable {c : Char} {cs : List Char} {negative : Bool} {x : Binary64}

/-- The lower case of an ASCII letter is the one that core gives. -/
theorem asciiLower_eq (c : Char) : asciiLower c = c.toLower := by
  have htable : ∀ n < 0x80, asciiLower (Char.ofNat n) = (Char.ofNat n).toLower := by
    decide +kernel
  by_cases h : c.toNat < 0x80
  · have hc := htable c.toNat h
    rwa [Char.ofNat_toNat] at hc
  · have hcapital : ¬(c.val ≥ 'A'.val ∧ c.val ≤ 'Z'.val) := fun hc ↦
      h (Nat.lt_of_le_of_lt (UInt32.le_iff_toNat_le.mp hc.2) (by decide))
    unfold Char.toLower
    rw [dif_neg hcapital]
    exact if_neg hcapital

theorem ofList_lower_eq_iff {name : String} :
    String.ofList (cs.map asciiLower) = name ↔ IsNamed name cs := by
  rw [IsNamed, ← String.toList_inj, String.toList_ofList,
    List.map_congr_left fun c _ ↦ asciiLower_eq c]

theorem readNamed?_eq_some_iff : readNamed? negative cs = some x ↔
    (IsNamed "inf" cs ∨ IsNamed "infinity" cs) ∧ x = .infinite negative ∨
      IsNamed "nan" cs ∧ x = .nan := by
  simp only [readNamed?, ← ofList_lower_eq_iff]
  generalize String.ofList (cs.map asciiLower) = name
  split
  next h =>
    have hnan : name ≠ "nan" := by
      rcases h with rfl | rfl
      all_goals decide
    simp only [h, hnan, true_and, false_and, or_false, Option.some.injEq, eq_comm]
  next h =>
    simp only [h, false_and, false_or]
    split
    next hnan => simp only [hnan, true_and, Option.some.injEq, eq_comm]
    next hnan => simp only [hnan, false_and, reduceCtorEq]

theorem readExponent?_eq_some_iff {e : Int} : readExponent? cs = some e ↔ Exponent cs e := by
  constructor
  · intro h
    unfold readExponent? at h
    split at h
    · cases h
      exact .none
    next c rest =>
      split at h
      next hletter =>
        obtain ⟨sign, hsign, hrest⟩ := exists_sign rest
        dsimp only at h
        generalize takeSign rest = signed at h hsign hrest
        split at h
        · cases h
        next hne =>
          obtain ⟨values, hvalues, rfl⟩ := Option.map_eq_some_iff.mp h
          obtain ⟨hdigits, rfl⟩ := mapM_asciiDigit?_eq_some_iff.mp hvalues
          have hds : Digits signed.2 := ⟨by simpa using hne, hdigits⟩
          rw [hrest, ofDigits_signed]
          exact .some hletter hsign hds
      · cases h
  · intro h
    cases h with
    | none => rfl
    | some hletter hsign hds =>
      have hvalues := mapM_asciiDigit?_eq_some_iff.mpr ⟨hds.isDigit, rfl⟩
      simp only [readExponent?, if_pos hletter, takeSign_append hsign hds.head,
        List.isEmpty_eq_false_iff.mpr hds.ne_nil, Bool.false_eq_true, if_false, hvalues,
        Option.map_some, ofDigits_signed]

/-- How a decimal is read once it is cut into parts. -/
theorem readParts_eq_some_iff {whole fraction exponent : List Char} :
    (((whole ++ fraction).mapM asciiDigit?).bind fun values ↦ if values.isEmpty then none else
      (readExponent? exponent).bind fun e ↦
        some (Binary64.ofDecimal negative (ofDigits values) (e - fraction.length))) = some x ↔
    Digits (whole ++ fraction) ∧ ∃ e, Exponent exponent e ∧ x = .ofDecimal negative
      (Nat.ofDigitChars 10 (whole ++ fraction) 0) (e - fraction.length) := by
  simp only [Option.bind_eq_some_iff, mapM_asciiDigit?_eq_some_iff, ← readExponent?_eq_some_iff]
  constructor
  · rintro ⟨values, ⟨hdigits, rfl⟩, h⟩
    split at h
    · cases h
    next hne =>
      obtain ⟨e, he, h⟩ := Option.bind_eq_some_iff.mp h
      cases h
      refine ⟨⟨by simpa using hne, hdigits⟩, e, he, ?_⟩
      rw [ofDigits_eq_ofDigitChars]
  · rintro ⟨hds, e, he, rfl⟩
    refine ⟨_, ⟨hds.isDigit, rfl⟩, ?_⟩
    rw [if_neg (by simpa using hds.ne_nil), he, ofDigits_eq_ofDigitChars]
    rfl

/-- An exponent does not begin with a digit or a point. -/
theorem Exponent.head {e : Int} (h : Exponent cs e) :
    ∀ c ∈ cs.head?, c.isDigit = false ∧ c ≠ '.' := by
  cases h with
  | none => nofun
  | some hletter =>
    rintro _ ⟨⟩
    rcases hletter with rfl | rfl
    all_goals exact ⟨rfl, by decide⟩

theorem readDecimal?_eq_some_iff : readDecimal? negative cs = some x ↔ Decimal negative cs x := by
  constructor
  · intro h
    have hspan (cs : List Char) := List.takeWhile_append_dropWhile
      (p := fun c ↦ (asciiDigit? c).isSome) (l := cs)
    unfold readDecimal? at h
    dsimp only at h
    split at h
    next more hmore =>
      obtain ⟨hds, e, he, rfl⟩ := readParts_eq_some_iff.mp h
      have hdecimal : Decimal negative _ _ := .mk hds (.inl rfl) he
      rwa [hspan more, List.singleton_append, ← hmore, hspan cs] at hdecimal
    next hnone =>
      obtain ⟨hds, e, he, rfl⟩ := readParts_eq_some_iff.mp h
      have hdecimal : Decimal negative _ _ := .mk hds (.inr ⟨rfl, rfl⟩) he
      rwa [List.nil_append, List.nil_append, hspan cs] at hdecimal
  · rintro (@⟨whole, point, fraction, exponent, e, hds, hpoint, he⟩)
    have hwhole : ∀ c ∈ whole, (asciiDigit? c).isSome = true := fun c hc ↦
      (isSome_asciiDigit? c).trans (hds.isDigit c (List.mem_append_left _ hc))
    have hfraction : ∀ c ∈ fraction, (asciiDigit? c).isSome = true := fun c hc ↦
      (isSome_asciiDigit? c).trans (hds.isDigit c (List.mem_append_right _ hc))
    have hexponent : ∀ c ∈ exponent.head?, (asciiDigit? c).isSome = false := fun c hc ↦
      (isSome_asciiDigit? c).trans (he.head c hc).1
    unfold readDecimal?
    rcases hpoint with rfl | ⟨rfl, rfl⟩
    · have hpoint : ∀ c ∈ ('.' :: (fraction ++ exponent)).head?,
          (asciiDigit? c).isSome = false := by
        rintro _ ⟨⟩
        rfl
      have hspan := span_append hwhole hpoint
      have hmore := span_append hfraction hexponent
      simp only [List.singleton_append, hspan.1, hspan.2, hmore.1, hmore.2]
      exact readParts_eq_some_iff.mpr ⟨hds, e, he, rfl⟩
    · have hspan := span_append hwhole hexponent
      simp only [List.nil_append, hspan.1, hspan.2]
      split
      next more => exact absurd rfl (he.head '.' rfl).2
      next => exact readParts_eq_some_iff.mpr ⟨hds, e, he, rfl⟩

/-- Letters are no other characters of a numeral. -/
theorem of_isLower_toLower (h : c.toLower.isLower = true) :
    c.isDigit = false ∧ isNumeralBlank c = false ∧ c ≠ '-' ∧ c ≠ '+' := by
  have htable : ∀ n < 0x80, (Char.ofNat n).toLower.isLower = true →
      (Char.ofNat n).isDigit = false ∧ isNumeralBlank (Char.ofNat n) = false ∧
        Char.ofNat n ≠ '-' ∧ Char.ofNat n ≠ '+' := by
    decide +kernel
  have hascii : c.toNat < 0x80 := by
    have hle : c.toLower.val ≤ 'z'.val := of_decide_eq_true (Bool.and_eq_true_iff.mp h).2
    exact ascii_of_toLower (Nat.lt_of_le_of_lt (UInt32.le_iff_toNat_le.mp hle) (by decide))
  have hc := htable c.toNat hascii
  rw [Char.ofNat_toNat] at hc
  exact hc h

theorem IsNamed.isLower {name : String} (h : IsNamed name cs)
    (hname : name.toList.all Char.isLower = true) : ∀ c ∈ cs, c.toLower.isLower = true := by
  intro c hc
  refine List.all_eq_true.mp hname c.toLower ?_
  rw [← show cs.map Char.toLower = name.toList from h]
  exact List.mem_map_of_mem hc

/-- A numeral without digits consists of letters. -/
theorem isLower_of_readNamed? (h : readNamed? negative cs = some x) :
    ∀ c ∈ cs, c.toLower.isLower = true := by
  rcases readNamed?_eq_some_iff.mp h with ⟨h | h, -⟩ | ⟨h, -⟩
  all_goals exact h.isLower (by decide)

theorem Decimal.exists_isDigit (h : Decimal negative cs x) : ∃ c ∈ cs, c.isDigit = true := by
  cases h with
  | mk hds _ _ =>
    obtain ⟨c, hc⟩ := List.exists_mem_of_ne_nil _ hds.ne_nil
    refine ⟨c, ?_, hds.isDigit c hc⟩
    rcases List.mem_append.mp hc with hc | hc
    all_goals simp [hc]

theorem readUnsigned_eq_some_iff :
    ((readNamed? negative cs).orElse fun _ ↦ readDecimal? negative cs) = some x ↔
      Real negative cs x := by
  constructor
  · intro h
    cases hnamed : readNamed? negative cs with
    | some y =>
      rw [hnamed] at h
      cases h
      rcases readNamed?_eq_some_iff.mp hnamed with ⟨h, rfl⟩ | ⟨h, rfl⟩
      · exact .infinite h
      · exact .nan h
    | none =>
      rw [hnamed] at h
      exact .decimal (readDecimal?_eq_some_iff.mp h)
  · rintro (h | h | h)
    · rw [readNamed?_eq_some_iff.mpr (.inl ⟨h, rfl⟩)]
      rfl
    · rw [readNamed?_eq_some_iff.mpr (.inr ⟨h, rfl⟩)]
      rfl
    · have hnamed : readNamed? negative cs = none := by
        refine Option.eq_none_iff_forall_ne_some.mpr fun y hy ↦ ?_
        obtain ⟨c, hc, hdigit⟩ := h.exists_isDigit
        exact Bool.eq_false_iff.mp (of_isLower_toLower (isLower_of_readNamed? hy c hc)).1 hdigit
      rw [hnamed]
      exact readDecimal?_eq_some_iff.mpr h

/-- A numeral without its sign holds no blanks, and does not begin with a further sign. -/
theorem Decimal.plain (h : Decimal negative cs x) :
    (∀ c ∈ cs, isNumeralBlank c = false) ∧ ∀ c ∈ cs.head?, c ≠ '-' ∧ c ≠ '+' := by
  obtain @⟨whole, point, fraction, exponent, e, hds, hpoint, he⟩ := h
  have hdigits (c) (hc : c ∈ whole ++ fraction) : isNumeralBlank c = false :=
    isNumeralBlank_of_isDigit (hds.isDigit c hc)
  have hexponent : ∀ c ∈ exponent, isNumeralBlank c = false := by
    cases he with
    | none => nofun
    | some hletter hsign hds =>
      refine List.forall_mem_cons.mpr ⟨?_, fun c hc ↦ (List.mem_append.mp hc).elim
        (fun hc ↦ ?_) fun hc ↦ isNumeralBlank_of_isDigit (hds.isDigit c hc)⟩
      · rcases hletter with rfl | rfl
        all_goals rfl
      · rcases hsign.mem hc with rfl | rfl
        all_goals rfl
  have hblank : ∀ c ∈ point, isNumeralBlank c = false := by
    rcases hpoint with rfl | ⟨rfl, -⟩
    · simp [isNumeralBlank]
    · nofun
  constructor
  · intro c hc
    simp only [List.mem_append] at hc hdigits
    rcases hc with hc | hc | hc | hc
    exacts [hdigits c (.inl hc), hblank c hc, hdigits c (.inr hc), hexponent c hc]
  · cases whole with
    | cons d whole =>
      rintro _ ⟨⟩
      exact hds.head d rfl
    | nil =>
      rcases hpoint with rfl | ⟨rfl, rfl⟩
      · rintro _ ⟨⟩
        decide
      · exact absurd rfl hds.ne_nil

theorem Real.plain (h : Real negative cs x) :
    (∀ c ∈ cs, isNumeralBlank c = false) ∧ ∀ c ∈ cs.head?, c ≠ '-' ∧ c ≠ '+' := by
  have hletters (h : ∀ c ∈ cs, c.toLower.isLower = true) :
      (∀ c ∈ cs, isNumeralBlank c = false) ∧ ∀ c ∈ cs.head?, c ≠ '-' ∧ c ≠ '+' := by
    constructor
    · exact fun c hc ↦ (of_isLower_toLower (h c hc)).2.1
    · exact fun c hc ↦ (of_isLower_toLower (h c (List.mem_of_mem_head? hc))).2.2
  cases h with
  | infinite h => exact hletters (h.elim (·.isLower (by decide)) (·.isLower (by decide)))
  | nan h => exact hletters (h.isLower (by decide))
  | decimal h => exact h.plain

end Real

/-! ## Reading real numbers -/

section Read

variable {cs : List Char} {negative : Bool} {x : Binary64}

/-- A sign is found in front of a numeral whether its digits are grouped or not. -/
theorem exists_grouped {sign : List Char} (hfit : underscoresFit none cs = true)
    (hsign : Sign sign negative) {rest : List Char} (h : ungrouped cs = sign ++ rest) :
    ∃ grouped, cs = sign ++ grouped ∧ ungrouped grouped = rest := by
  have hcons {c : Char} (h : ungrouped cs = c :: rest) :
      ∃ grouped, cs = c :: grouped ∧ ungrouped grouped = rest := by
    cases cs with
    | nil => cases h
    | cons d cs =>
      have hd : d ≠ '_' := by
        rintro rfl
        simp [underscoresFit] at hfit
      have hkept : ungrouped (d :: cs) = d :: ungrouped cs :=
        List.filter_cons_of_pos (by simpa using hd)
      obtain ⟨rfl, hrest⟩ := List.cons.inj (hkept.symm.trans h)
      exact ⟨cs, rfl, hrest⟩
  cases hsign with
  | none => exact ⟨cs, rfl, h⟩
  | plus | minus => exact hcons h

/-- Just the numerals of real numbers are read, and as what they spell. -/
theorem readReal?_eq_some_iff {s : String} : readReal? s = some x ↔ SpellsReal s x := by
  constructor
  · intro h
    obtain ⟨before, after, htext, hbefore, hafter, -⟩ := exists_trimList isNumeralBlank (ascii s)
    simp only [readReal?] at h
    generalize trimList isNumeralBlank (ascii s) = cs at h htext
    split at h
    next hfit =>
      obtain ⟨sign, hsign, hplain⟩ := exists_sign (ungrouped cs)
      obtain ⟨grouped, rfl, hgrouped⟩ := exists_grouped hfit hsign hplain
      rw [underscoresFit_append hsign, ← isGrouped_iff] at hfit
      exact ⟨_, _, ⟨before, sign, grouped, after, htext, hbefore, hafter, hsign, hfit, hgrouped⟩,
        readUnsigned_eq_some_iff.mp h⟩
    · cases h
  · rintro ⟨negative, cs, ⟨before, sign, grouped, after, htext, hbefore, hafter, hsign, hgrouped,
      rfl⟩, hreal⟩
    have hkept : ∀ c ∈ sign ++ grouped, isNumeralBlank c = false := by
      intro c hc
      rcases List.mem_append.mp hc with hc | hc
      · rcases hsign.mem hc with rfl | rfl
        all_goals rfl
      · by_cases hunderscore : c = '_'
        · rw [hunderscore]
          rfl
        · exact hreal.plain.1 c (List.mem_filter.mpr ⟨hc, by simpa using hunderscore⟩)
    have htrim : trimList isNumeralBlank (ascii s) = sign ++ grouped := by
      rw [htext, trimList_around hbefore hafter hkept]
    have hfit : underscoresFit none (sign ++ grouped) = true := by
      rwa [underscoresFit_append hsign, ← isGrouped_iff]
    have hplain : (sign ++ grouped).filter (· != '_') = sign ++ ungrouped grouped := by
      rw [List.filter_append]
      cases hsign <;> rfl
    simp only [readReal?, htrim, hfit, if_true, hplain, takeSign_append hsign hreal.plain.2]
    exact readUnsigned_eq_some_iff.mpr hreal

end Read

end PullRelay.Numeral
