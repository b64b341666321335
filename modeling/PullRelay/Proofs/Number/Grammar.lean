import PullRelay.Proofs.Number.Decimal

/-!
# The grammar of whole numbers

What the reader of whole numbers accepts, said without it: a text spells a whole number if it is
a sign and digits with blanks around them, and underscores may group the digits.  `readInt` reads
just the texts that spell one (`readInt_eq_ok_iff`).  The parts of the grammar are those of real
numbers as well.
-/

namespace PullRelay.Numeral

open Text

/-! ## Parts of numerals -/

/-- A sign, which may be missing; `true` is for minus. -/
inductive Sign : List Char → Bool → Prop
  | none : Sign [] false
  | plus : Sign ['+'] false
  | minus : Sign ['-'] true

/-- At least one digit, and nothing else. -/
structure Digits (ds : List Char) : Prop where
  ne_nil : ds ≠ []
  isDigit : ∀ c ∈ ds, c.isDigit = true

/-- The whole number that digits after a sign write in decimal. -/
def signedValue (negative : Bool) (ds : List Char) : Int :=
  if negative then -(Nat.ofDigitChars 10 ds 0 : Int) else Nat.ofDigitChars 10 ds 0

/-- Every underscore stands between two digits. -/
def IsGrouped (cs : List Char) : Prop :=
  ∀ before after, cs = before ++ '_' :: after →
    (∃ c ∈ before.getLast?, c.isDigit = true) ∧ ∃ c ∈ after.head?, c.isDigit = true

/-- The characters without underscores. -/
def ungrouped (cs : List Char) : List Char := cs.filter (· != '_')

/-- The text holds a sign and then these characters, apart from blanks around them and from
underscores that group digits. -/
def Holds (s : String) (negative : Bool) (cs : List Char) : Prop :=
  ∃ before sign grouped after, ascii s = before ++ (sign ++ grouped ++ after) ∧
    (∀ c ∈ before, isNumeralBlank c = true) ∧ (∀ c ∈ after, isNumeralBlank c = true) ∧
    Sign sign negative ∧ IsGrouped grouped ∧ ungrouped grouped = cs

/-- The text is a numeral of this whole number. -/
def SpellsInt (s : String) (n : Int) : Prop :=
  ∃ negative ds, Holds s negative ds ∧ Digits ds ∧ ds.length ≤ digitLimit ∧
    n = signedValue negative ds

section Digits

variable {c : Char} {cs ds : List Char}

@[simp] theorem isSome_asciiDigit? (c : Char) : (asciiDigit? c).isSome = c.isDigit := by
  rw [Bool.eq_iff_iff, Char.isDigit_iff_toNat]
  simp [asciiDigit?]

theorem isRunChar_iff : isRunChar c = true ↔ c.isDigit = true ∨ c = '_' := by
  simp [isRunChar]

theorem ne_underscore_of_isDigit (h : c.isDigit = true) : c ≠ '_' := by
  rintro rfl
  cases h

/-- Runs do not begin with a sign. -/
theorem ne_sign_of_isRunChar (h : isRunChar c = true) : c ≠ '-' ∧ c ≠ '+' := by
  constructor
  · rintro rfl
    cases h
  · rintro rfl
    cases h

theorem not_isDigit_of_isNumeralBlank (h : isNumeralBlank c = true) : c.isDigit = false :=
  Bool.eq_false_iff.mpr fun hdigit ↦
    Bool.eq_false_iff.mp (isNumeralBlank_of_isDigit hdigit) h

theorem not_isRunChar_of_isNumeralBlank (h : isNumeralBlank c = true) : isRunChar c = false := by
  refine Bool.eq_false_iff.mpr fun hrun ↦ ?_
  rcases isRunChar_iff.mp hrun with hdigit | rfl
  · exact Bool.eq_false_iff.mp (not_isDigit_of_isNumeralBlank h) hdigit
  · exact absurd h (by decide)

/-- Characters all have a value just if they are digits. -/
theorem mapM_asciiDigit?_eq_some_iff {values : List Nat} :
    cs.mapM asciiDigit? = some values ↔
      (∀ c ∈ cs, c.isDigit = true) ∧ values = cs.map fun c ↦ c.toNat - 0x30 := by
  constructor
  · intro h
    suffices hdigits : ∀ c ∈ cs, c.isDigit = true from
      ⟨hdigits, Option.some.inj (h.symm.trans (mapM_asciiDigit? hdigits))⟩
    induction cs generalizing values with
    | nil => simp
    | cons c cs ih =>
      rw [List.mapM_cons] at h
      obtain ⟨d, hd, h⟩ := Option.bind_eq_some_iff.mp h
      obtain ⟨ds, hds, -⟩ := Option.bind_eq_some_iff.mp h
      refine List.forall_mem_cons.mpr ⟨?_, ih hds⟩
      rw [← isSome_asciiDigit?, hd, Option.isSome_some]
  · rintro ⟨hdigits, rfl⟩
    exact mapM_asciiDigit? hdigits

/-- What digits are read as. -/
theorem ofDigits_signed (negative : Bool) (ds : List Char) :
    (if negative then -(ofDigits (ds.map fun c ↦ c.toNat - 0x30) : Int)
      else ofDigits (ds.map fun c ↦ c.toNat - 0x30)) = signedValue negative ds := by
  rw [ofDigits_eq_ofDigitChars, signedValue]

end Digits

/-- A span ends where something else begins. -/
theorem span_append {p : Char → Bool} {cs after : List Char} (hcs : ∀ c ∈ cs, p c = true)
    (hafter : ∀ c ∈ after.head?, p c = false) :
    (cs ++ after).takeWhile p = cs ∧ (cs ++ after).dropWhile p = after := by
  rw [List.takeWhile_append_of_pos hcs, List.dropWhile_append_of_pos hcs]
  cases after with
  | nil => exact ⟨List.append_nil cs, rfl⟩
  | cons c after =>
    have hc : ¬p c = true := Bool.eq_false_iff.mp (hafter c rfl)
    rw [List.takeWhile_cons_of_neg hc, List.dropWhile_cons_of_neg hc]
    exact ⟨List.append_nil cs, rfl⟩

section Sign

variable {sign cs : List Char} {negative : Bool}

/-- What a sign is taken from begins with it. -/
theorem exists_sign (cs : List Char) :
    ∃ sign, Sign sign (takeSign cs).1 ∧ cs = sign ++ (takeSign cs).2 := by
  unfold takeSign
  split
  · exact ⟨_, .minus, rfl⟩
  · exact ⟨_, .plus, rfl⟩
  · exact ⟨_, .none, rfl⟩

theorem takeSign_append (h : Sign sign negative) (hcs : ∀ c ∈ cs.head?, c ≠ '-' ∧ c ≠ '+') :
    takeSign (sign ++ cs) = (negative, cs) := by
  cases h with
  | plus | minus => rfl
  | none =>
    rw [List.nil_append]
    unfold takeSign
    split
    · exact absurd rfl (hcs '-' rfl).1
    · exact absurd rfl (hcs '+' rfl).2
    · rfl

theorem Sign.mem (h : Sign sign negative) {c : Char} (hc : c ∈ sign) : c = '-' ∨ c = '+' := by
  cases h with
  | none => cases hc
  | plus => exact .inr (List.mem_singleton.mp hc)
  | minus => exact .inl (List.mem_singleton.mp hc)

/-- Digits do not begin with a sign. -/
theorem Digits.head (h : Digits cs) : ∀ c ∈ cs.head?, c ≠ '-' ∧ c ≠ '+' := by
  intro c hc
  exact ne_sign_of_isRunChar (isRunChar_of_isDigit (h.isDigit c (List.mem_of_mem_head? hc)))

end Sign

/-! ## Underscores -/

section Underscores

variable {c : Char} {rest cs : List Char}

theorem forall_cons_eq_append {P : List Char → List Char → Prop} :
    (∀ before after, c :: rest = before ++ '_' :: after → P before after) ↔
      (c = '_' → P [] rest) ∧
        ∀ before after, rest = before ++ '_' :: after → P (c :: before) after := by
  constructor
  · intro h
    refine ⟨?_, fun before after hrest ↦ h _ _ (congrArg (c :: ·) hrest)⟩
    rintro rfl
    exact h [] rest rfl
  · rintro ⟨hhead, htail⟩ before after hsplit
    cases before with
    | nil =>
      obtain ⟨hc, rfl⟩ := List.cons.inj hsplit
      exact hhead hc
    | cons b before =>
      obtain ⟨rfl, hrest⟩ := List.cons.inj hsplit
      exact htail before after hrest

/-- Underscores fit where they stand between digits, of which the one in front may be the
character before. -/
theorem underscoresFit_iff {previous : Option Char} :
    underscoresFit previous cs = true ↔
      (previous = some '_' → ∃ c ∈ cs.head?, c.isDigit = true) ∧
      ∀ before after, cs = before ++ '_' :: after →
        (∃ c ∈ (previous.toList ++ before).getLast?, c.isDigit = true) ∧
          ∃ c ∈ after.head?, c.isDigit = true := by
  induction cs generalizing previous with
  | nil => simp [underscoresFit]
  | cons c rest ih =>
    have hlast (before : List Char) :
        (previous.toList ++ c :: before).getLast? = ((some c).toList ++ before).getLast? := by
      rw [List.getLast?_append_of_ne_nil _ (List.cons_ne_nil _ _)]
      rfl
    rw [underscoresFit, Bool.and_eq_true, ih, forall_cons_eq_append]
    simp only [hlast, List.append_nil]
    by_cases hc : c = '_'
    · subst hc
      have hdigit : (previous.bind asciiDigit?).isSome = true ↔
          ∃ c ∈ previous.toList.getLast?, c.isDigit = true := by
        cases previous <;> simp
      have hnot : (∃ c ∈ previous.toList.getLast?, c.isDigit = true) → previous ≠ some '_' := by
        rintro ⟨c, hc, hcdigit⟩ rfl
        cases hc
        cases hcdigit
      rw [if_pos rfl, hdigit]
      grind
    · rw [if_neg hc]
      simp only [Bool.or_eq_true, bne_iff_ne, isSome_asciiDigit?, Option.some.injEq, hc]
      grind

theorem isGrouped_iff : IsGrouped cs ↔ underscoresFit none cs = true := by
  rw [underscoresFit_iff]
  simp [IsGrouped]

/-- A sign in front makes no difference. -/
theorem underscoresFit_append {sign : List Char} {negative : Bool} (h : Sign sign negative) :
    underscoresFit none (sign ++ cs) = underscoresFit none cs := by
  cases h with
  | none => rfl
  | plus | minus => cases cs <;> rfl

end Underscores

/-! ## Whole numbers -/

section Run

variable {cs : List Char} {values : List Nat}

theorem flatten_splitAll (cs : List Char) : (splitAll '_' cs).flatten = ungrouped cs := by
  induction cs with
  | nil => rfl
  | cons c rest ih =>
    rw [splitAll]
    split
    next hc =>
      rw [List.flatten_cons, List.nil_append, ih, hc]
      rfl
    next hc =>
      have hfilter : ungrouped (c :: rest) = c :: ungrouped rest :=
        List.filter_cons_of_pos (by simpa using hc)
      cases hs : splitAll '_' rest with
      | nil => exact absurd hs (splitAll_ne_nil '_' rest)
      | cons piece pieces => rw [hfilter, ← ih, hs]; rfl

/-- In a run, underscores stand between digits just if no piece between them is empty.  What is
true of a run is true of the rest of one after an underscore, and apart from its first piece, of
the rest of one after a digit. -/
theorem underscoresFit_run (h : ∀ c ∈ cs, isRunChar c = true) :
    underscoresFit (some '_') cs = (splitAll '_' cs).all (!·.isEmpty) ∧
    ∀ d, d.isDigit = true →
      underscoresFit (some d) cs = (splitAll '_' cs).tail.all (!·.isEmpty) := by
  induction cs with
  | nil =>
    refine ⟨rfl, fun d hd ↦ ?_⟩
    simp [underscoresFit, splitAll, ne_underscore_of_isDigit hd]
  | cons c rest ih =>
    obtain ⟨hc, hrest⟩ := List.forall_mem_cons.mp h
    obtain ⟨hblank, hdigit⟩ := ih hrest
    rcases isRunChar_iff.mp hc with hc | rfl
    · have hne := ne_underscore_of_isDigit hc
      obtain ⟨piece, pieces, hs⟩ := List.exists_cons_of_ne_nil (splitAll_ne_nil '_' rest)
      have hpieces := hdigit c hc
      rw [hs, List.tail_cons] at hpieces
      simp [underscoresFit, splitAll, hne, hs, hc, hpieces]
    · refine ⟨by simp [underscoresFit, splitAll, asciiDigit?], fun d hd ↦ ?_⟩
      simp [underscoresFit, splitAll, hd, hblank]

/-- The digits of a run. -/
theorem runDigits?_eq_some_iff (h : ∀ c ∈ cs, isRunChar c = true) :
    runDigits? cs = some values ↔ IsGrouped cs ∧ Digits (ungrouped cs) ∧
      values = (ungrouped cs).map fun c ↦ c.toNat - 0x30 := by
  have hdigits : ∀ c ∈ ungrouped cs, c.isDigit = true := by
    intro c hc
    obtain ⟨hmem, hne⟩ := List.mem_filter.mp hc
    exact (isRunChar_iff.mp (h c hmem)).resolve_right (by simpa using hne)
  have hpieces : (splitAll '_' cs).all (!·.isEmpty) = true ↔ IsGrouped cs ∧ ungrouped cs ≠ [] := by
    rw [← (underscoresFit_run h).1, isGrouped_iff]
    cases cs with
    | nil => simp [underscoresFit, ungrouped]
    | cons c rest =>
      rcases isRunChar_iff.mp (h c List.mem_cons_self) with hc | rfl
      · simp [underscoresFit, ungrouped, ne_underscore_of_isDigit hc, hc]
      · simp [underscoresFit, asciiDigit?]
  rw [runDigits?, flatten_splitAll]
  split
  next hall =>
    obtain ⟨hgrouped, hne⟩ := hpieces.mp hall
    rw [mapM_asciiDigit?_eq_some_iff]
    exact ⟨fun h ↦ ⟨hgrouped, ⟨hne, hdigits⟩, h.2⟩, fun h ↦ ⟨hdigits, h.2.2⟩⟩
  next hall =>
    constructor
    · rintro ⟨⟩
    · rintro ⟨hgrouped, hds, -⟩
      exact absurd (hpieces.mpr ⟨hgrouped, hds.ne_nil⟩) hall

end Run

/-- What is grouped into digits is a run. -/
theorem isRunChar_of_ungrouped {cs : List Char} (h : Digits (ungrouped cs)) :
    ∀ c ∈ cs, isRunChar c = true := by
  intro c hc
  by_cases hunderscore : c = '_'
  · exact isRunChar_iff.mpr (.inr hunderscore)
  · refine isRunChar_iff.mpr (.inl (h.isDigit c ?_))
    exact List.mem_filter.mpr ⟨hc, by simpa using hunderscore⟩

/-- Blanks and a sign are skipped in front of a run, which begins with neither. -/
theorem takeSign_dropWhile {before sign rest : List Char} {negative : Bool}
    (hbefore : ∀ c ∈ before, isNumeralBlank c = true) (hsign : Sign sign negative)
    (hrest : ∃ c ∈ rest.head?, isRunChar c = true) :
    takeSign ((before ++ (sign ++ rest)).dropWhile isNumeralBlank) = (negative, rest) := by
  obtain ⟨c, hc, hrun⟩ := hrest
  have hhead : ∀ d ∈ (sign ++ rest).head?, isNumeralBlank d = false := by
    cases hsign with
    | plus | minus => rintro _ ⟨⟩; rfl
    | none =>
      intro d hd
      cases hc.symm.trans hd
      refine Bool.eq_false_iff.mpr fun hblank ↦ ?_
      exact Bool.eq_false_iff.mp (not_isRunChar_of_isNumeralBlank hblank) hrun
  rw [(span_append hbefore hhead).2]
  refine takeSign_append hsign fun d hd ↦ ?_
  cases hc.symm.trans hd
  exact ne_sign_of_isRunChar hrun

/-- Just the numerals of whole numbers are read, and as what they spell. -/
theorem readInt_eq_ok_iff {s : String} {n : Int} : readInt s = .ok n ↔ SpellsInt s n := by
  constructor
  · intro h
    simp only [readInt] at h
    obtain ⟨sign, hsign, hcs⟩ := exists_sign ((ascii s).dropWhile isNumeralBlank)
    generalize takeSign ((ascii s).dropWhile isNumeralBlank) = signed at h hsign hcs
    have hrun : ∀ c ∈ signed.2.takeWhile isRunChar, isRunChar c = true :=
      fun c hc ↦ List.mem_takeWhile_imp hc
    split at h
    · cases h
    next values hvalues =>
      obtain ⟨hgrouped, hds, rfl⟩ := (runDigits?_eq_some_iff hrun).mp hvalues
      rw [List.length_map] at h
      split at h
      · cases h
      next hlimit =>
        split at h
        next hrest =>
          cases h
          refine ⟨signed.1, _, ⟨(ascii s).takeWhile isNumeralBlank, sign, _,
            signed.2.dropWhile isRunChar, ?_, fun c hc ↦ List.mem_takeWhile_imp hc,
            List.all_eq_true.mp hrest, hsign, hgrouped, rfl⟩, hds, Nat.le_of_not_lt hlimit,
            ofDigits_signed _ _⟩
          rw [List.append_assoc, List.takeWhile_append_dropWhile, ← hcs,
            List.takeWhile_append_dropWhile]
        · cases h
  · rintro ⟨negative, ds, ⟨before, sign, grouped, after, htext, hbefore, hafter, hsign, hgrouped,
      rfl⟩, hds, hlimit, rfl⟩
    have hrun := isRunChar_of_ungrouped hds
    have hhead : ∃ c ∈ (grouped ++ after).head?, isRunChar c = true := by
      cases grouped with
      | nil => exact absurd rfl hds.ne_nil
      | cons c rest => exact ⟨c, rfl, hrun c List.mem_cons_self⟩
    have hsigned :
        takeSign ((ascii s).dropWhile isNumeralBlank) = (negative, grouped ++ after) := by
      rw [htext, List.append_assoc]
      exact takeSign_dropWhile hbefore hsign hhead
    have hspan := span_append hrun fun c hc ↦
      not_isRunChar_of_isNumeralBlank (hafter c (List.mem_of_mem_head? hc))
    have hvalues := (runDigits?_eq_some_iff hrun).mpr ⟨hgrouped, hds, rfl⟩
    simp only [readInt, hsigned, hspan.1, hspan.2, hvalues, List.length_map,
      if_neg (Nat.not_lt.mpr hlimit), List.all_eq_true.mpr hafter, if_true, ofDigits_signed]

end PullRelay.Numeral
