import PullRelay.Proofs.Client.Standard
import PullRelay.Proofs.Number.Grammar
import PullRelay.Proofs.Pipeline.Additions
import PullRelay.Proofs.Url.Queries

/-!
# Segments of paths

A text that stands in a path is written as one segment of it.  `Percent.Spells` says which bytes a
segment stands for, without the reader: those of the text, so that different texts have different
segments.  A segment has no slash, no question mark and no number sign in it, so it ends where the
path goes on and not before, whatever the text (`Operation.addresses_text`).
-/

namespace PullRelay

open Text

namespace Url.Percent

/-- A letter or a digit of ASCII, or one of four others. -/
def Unreserved (c : Char) : Prop := c.isAlphanum = true ∨ c ∈ ['_', '.', '-', '~']

/-- The characters stand for the bytes: an unreserved one for its own, and a percent sign with two
hexadecimal digits for the one that they write. -/
inductive Spells : List Char → List UInt8 → Prop
  | nil : Spells [] []
  | plain {c cs bs} (hc : Unreserved c) (h : Spells cs bs) :
      Spells (c :: cs) (c.toNat.toUInt8 :: bs)
  | escape {a b high low cs bs} (ha : hexValue? a = some high) (hb : hexValue? b = some low)
      (h : Spells cs bs) : Spells ('%' :: a :: b :: cs) ((16 * high + low).toUInt8 :: bs)

section

variable {c : Char} {cs cs' : List Char} {bs bs' : List UInt8}

/-- A letter or a digit of ASCII, by its number. -/
theorem isAlphanum_iff_toNat : c.isAlphanum = true ↔
    ((0x41 ≤ c.toNat ∧ c.toNat ≤ 0x5A) ∨ (0x61 ≤ c.toNat ∧ c.toNat ≤ 0x7A)) ∨
      c.isDigit = true := by
  have hupper : c.isUpper = true ↔ 0x41 ≤ c.toNat ∧ c.toNat ≤ 0x5A :=
    decide_eq_true_iff.trans (and_congr UInt32.le_iff_toNat_le UInt32.le_iff_toNat_le)
  have hlower : c.isLower = true ↔ 0x61 ≤ c.toNat ∧ c.toNat ≤ 0x7A :=
    Bool.and_eq_true_iff.trans (and_congr (decide_eq_true_iff.trans UInt32.le_iff_toNat_le)
      (decide_eq_true_iff.trans UInt32.le_iff_toNat_le))
  show (c.isUpper || c.isLower || c.isDigit) = true ↔ _
  rw [Bool.or_eq_true, Bool.or_eq_true, hupper, hlower]

theorem isAsciiAlphanumeric_iff : isAsciiAlphanumeric c = true ↔ c.isAlphanum = true := by
  simp only [isAsciiAlphanumeric, isAsciiLetter, Numeral.isSome_asciiDigit?,
    isAlphanum_iff_toNat, Bool.or_eq_true, Bool.and_eq_true, decide_eq_true_eq]

theorem isUnreserved_iff : isUnreserved c = true ↔ Unreserved c := by
  simp only [isUnreserved, Unreserved, isAsciiAlphanumeric_iff, Bool.or_eq_true, beq_iff_eq,
    or_assoc, List.mem_cons, List.not_mem_nil, or_false]

theorem Unreserved.lt (hc : Unreserved c) : c.toNat < 0x80 := by
  rcases hc with hc | hc
  · rw [isAlphanum_iff_toNat, Char.isDigit_iff_toNat] at hc
    rcases hc with (hc | hc) | hc
    all_goals exact Nat.lt_of_le_of_lt hc.2 (by decide)
  · simp only [List.mem_cons, List.not_mem_nil, or_false] at hc
    obtain rfl | rfl | rfl | rfl := hc
    all_goals decide

/-- Neither the sign of escapes nor what has a meaning in a path stands for itself. -/
theorem Unreserved.notMem (hc : Unreserved c) : c ∉ ['%', '/', '?', '#'] := by
  intro hmem
  simp only [List.mem_cons, List.not_mem_nil, or_false] at hmem
  unfold Unreserved at hc
  obtain rfl | rfl | rfl | rfl := hmem
  all_goals exact absurd hc (by decide)

theorem notMem_of_hexValue? {d : Nat} (h : hexValue? c = some d) : c ∉ ['/', '?', '#'] := by
  intro hmem
  simp only [List.mem_cons, List.not_mem_nil, or_false] at hmem
  obtain rfl | rfl | rfl := hmem
  all_goals cases h

theorem Spells.notMem (h : Spells cs bs) : ∀ c ∈ cs, c ∉ ['/', '?', '#'] := by
  induction h with
  | nil => nofun
  | plain hc _ ih =>
    exact List.forall_mem_cons.mpr ⟨fun hmem ↦ hc.notMem (List.mem_cons_of_mem _ hmem), ih⟩
  | escape ha hb _ ih =>
    simp only [List.forall_mem_cons]
    exact ⟨by decide, notMem_of_hexValue? ha, notMem_of_hexValue? hb, ih⟩

theorem Spells.append (h : Spells cs bs) (h' : Spells cs' bs') :
    Spells (cs ++ cs') (bs ++ bs') := by
  induction h with
  | nil => exact h'
  | plain hc _ ih => exact .plain hc ih
  | escape ha hb _ ih => exact .escape ha hb ih

theorem spells_encodeByte (b : UInt8) : Spells (encodeByte b) [b] := by
  have hb : b.toNat < 256 := b.toNat_lt
  unfold encodeByte
  split
  next h =>
    have hchar : (Char.ofNat b.toNat).toNat = b.toNat := by
      rw [Char.ofNat, dif_pos (.inl (by omega))]
      rfl
    have hplain := Spells.plain (isUnreserved_iff.mp h) .nil
    rwa [hchar, Nat.toUInt8_eq, UInt8.ofNat_toNat] at hplain
  next h =>
    have hescape := Spells.escape (hexValue?_hexDigit (b.toNat / 16) (by omega))
      (hexValue?_hexDigit (b.toNat % 16) (by omega)) .nil
    rwa [show 16 * (b.toNat / 16) + b.toNat % 16 = b.toNat by omega, Nat.toUInt8_eq,
      UInt8.ofNat_toNat] at hescape

/-- A text is written as a segment that stands for its bytes. -/
theorem spells_encode (s : String) : Spells (encode s).toList (Utf8.encode s.toList) := by
  rw [encode, String.toList_ofList]
  induction Utf8.encode s.toList with
  | nil => exact .nil
  | cons b bs ih => exact (spells_encodeByte b).append ih

theorem bytes_cons (hc : c ≠ '%') : bytes (c :: cs) = Utf8.encodeChar c ++ bytes cs := by
  rcases cs with _ | ⟨a, _ | ⟨b, cs⟩⟩
  · rw [bytes, bytes, List.append_nil]
  · rw [bytes, bytes]
  · rw [bytes, if_neg hc]

/-- The reader finds the bytes that a segment stands for. -/
theorem Spells.bytes_eq (h : Spells cs bs) : bytes cs = bs := by
  induction h with
  | nil => rfl
  | plain hc _ ih =>
    have hpercent : _ ≠ '%' := fun h ↦ hc.notMem (h ▸ List.mem_cons_self)
    rw [bytes_cons hpercent, Utf8.encodeChar, if_pos hc.lt, ih, List.singleton_append]
  | escape ha hb _ ih =>
    rw [bytes, if_pos rfl, escaped?, ha, hb]
    exact congrArg (_ :: ·) ih

theorem decode_encode (s : String) : decode (encode s).toList = s.toList := by
  rw [decode, (spells_encode s).bytes_eq, Utf8.decode_encode]

theorem encode_injective : Function.Injective encode := by
  intro s s' h
  rw [← String.toList_inj, ← decode_encode s, h, decode_encode]

end

end Url.Percent

/-- Operations on texts address one resource for each of them. -/
structure Operation.Addresses (op : String → Operation) (before after : String) : Prop where
  /-- The path holds a segment that stands for the text, and everything else in it is fixed. -/
  path_eq text : ∃ segment bs, (op text).path = before ++ "/" ++ String.ofList segment ++ after ∧
    Url.Percent.Spells segment bs ∧ (∀ c ∈ segment, c ∉ ['/', '?', '#']) ∧
    splitAll '/' (op text).path.toList =
      splitAll '/' before.toList ++ segment :: (splitAll '/' after.toList).tail ∧
    Url.Percent.bytes segment = bs ∧ String.fromUTF8? bs.toByteArray = some text ∧
    Url.Percent.decode segment = text.toList
  path_injective : Function.Injective fun text ↦ (op text).path
  /-- Every unit of work requests this path. -/
  request_unit {σ : Type} (c : Client σ) (text : String) (page : Int) (st : State σ Item) :
    ∃ r, r.method = (op text).method ∧ r.path = (op text).path ∧
      (c.unit (op text).call page st).2.world.trace = st.world.trace ++ [.requested r]
  /-- A whole call requests nothing else, but for a probe. -/
  request_run {σ : Type} (t : Transport σ) (s : Settings) (fuel : Nat) (text : String)
    (w : World σ) : w.Extends (fun e ↦ ∀ r ∈ e.request?, r = QuotaSnapshot.request ∨
        r.method = (op text).method ∧ r.path = (op text).path)
      ((Client.standard t s).run fuel (op text) w).2

namespace Operation

variable {op : String → Operation} {before after : String}

theorem Addresses.of_path_eq
    (hpath : ∀ text, (op text).path = before ++ "/" ++ Url.Percent.encode text ++ after)
    (hafter : ∀ c ∈ after.toList.head?, c = '/') : Addresses op before after where
  path_eq text := by
    have hspells := Url.Percent.spells_encode text
    have hslash : '/' ∉ (Url.Percent.encode text).toList := fun hmem ↦
      hspells.notMem '/' hmem List.mem_cons_self
    refine ⟨_, _, ?_, hspells, hspells.notMem, ?_, hspells.bytes_eq, Utf8.fromUTF8?_encode text,
      Url.Percent.decode_encode text⟩
    · rw [hpath, String.ofList_toList]
    · have hsep : "/".toList = ['/'] := rfl
      rw [hpath, String.append_assoc, String.append_assoc, String.toList_append,
        String.toList_append, String.toList_append, hsep, List.singleton_append,
        splitAll_append_cons, splitAll_append_of_head? hslash hafter]
  path_injective text text' h := by
    have hpaths : (op text).path = (op text').path := h
    rw [hpath, hpath, String.append_left_inj, String.append_right_inj] at hpaths
    exact Url.Percent.encode_injective hpaths
  request_unit c text page st := by
    obtain ⟨r, hr, htrace⟩ := c.exists_request_unit (op text) page st
    exact ⟨r, hr.method_eq, hr.path_eq, htrace⟩
  request_run t s fuel text w := by
    refine (Client.requests_standard_run t s (op text) fuel w).mono fun e he r hr ↦ ?_
    exact (he r hr).imp_right fun hsends ↦ ⟨hsends.method_eq, hsends.path_eq⟩

/-- A user name and a label are one segment of the path each, whatever they are. -/
theorem addresses_text :
    (∀ owner repo, Addresses (.permissionLevel owner repo)
      ("/repos/" ++ owner ++ "/" ++ repo ++ "/collaborators") "/permission") ∧
    ∀ (change : Change) number, Addresses (.removeLabel change number)
      ("/repos/" ++ change.owner ++ "/" ++ change.repo ++ "/issues/" ++ number.asText ++ "/labels")
      "" := by
  refine ⟨fun owner repo ↦ .of_path_eq (fun text ↦ ?_) ?_, fun change number ↦
    .of_path_eq (fun text ↦ ?_) nofun⟩
  · simp [path, repository, String.append_assoc]
  · rintro _ ⟨⟩
    rfl
  · simp [path, issues, repository, String.append_assoc]

end Operation

end PullRelay
