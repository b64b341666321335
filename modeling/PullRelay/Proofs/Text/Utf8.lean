import PullRelay.Text.Utf8

/-!
# Reading what was written in UTF-8

The bytes of a text are read back as that text (`Utf8.decode_encode`).  Between two bytes of a
character the bits read so far are those of the character without six for each byte that is
still owed.  The bytes are also those that core writes and reads (`Utf8.toByteArray_encode`).
-/

namespace PullRelay.Text.Utf8

theorem toNat_toUInt8 {n : Nat} (h : n < 256) : n.toUInt8.toNat = n := by
  rw [Nat.toUInt8_eq, UInt8.toNat_ofNat', Nat.mod_eq_of_lt h]

section Step

variable {n low high : Nat} (rest : List UInt8)

/-- The lowest six bits of a number, as a byte that goes on. -/
theorem toNat_tail (n : Nat) : (0x80 + n % 64).toUInt8.toNat = 0x80 + n % 64 :=
  toNat_toUInt8 (by omega)

/-- The last byte of a character. -/
theorem decodeFrom_last (hlow : low ≤ 0x80 + n % 64) (hhigh : 0x80 + n % 64 ≤ high) :
    decodeFrom (some ⟨n / 64, 1, low, high⟩) ((0x80 + n % 64).toUInt8 :: rest) =
      Char.ofNat n :: decodeFrom none rest := by
  have hbits : n / 64 * 64 + (0x80 + n % 64 - 0x80) = n := by omega
  rw [decodeFrom, toNat_tail, step]
  simp only [and_self, hlow, hhigh, if_true, Nat.le_refl, hbits]
  rfl

/-- A byte that others follow. -/
theorem decodeFrom_further (hlow : low ≤ 0x80 + n % 64) (hhigh : 0x80 + n % 64 ≤ high)
    (owed : Nat) :
    decodeFrom (some ⟨n / 64, owed + 2, low, high⟩) ((0x80 + n % 64).toUInt8 :: rest) =
      decodeFrom (some ⟨n, owed + 1, 0x80, 0xBF⟩) rest := by
  have hbits : n / 64 * 64 + (0x80 + n % 64 - 0x80) = n := by omega
  have howed : ¬owed + 2 ≤ 1 := by omega
  rw [decodeFrom, toNat_tail, step]
  simp only [and_self, hlow, hhigh, if_true, howed, if_false, hbits]
  rfl

/-- The first byte of a character of several. -/
theorem decodeFrom_first {b : Nat} {p : Begun} (hb : b < 256) (h : start b = .begun p) :
    decodeFrom none (b.toUInt8 :: rest) = decodeFrom (some p) rest := by
  rw [decodeFrom, toNat_toUInt8 hb, step, open?, h]
  rfl

end Step

theorem start_of_two {n : Nat} (hlow : 0x80 ≤ n) (hhigh : n < 0x800) :
    start (0xC0 + n / 64) = .begun ⟨n / 64, 1, 0x80, 0xBF⟩ := by
  rw [start, if_neg (by omega), if_pos (by omega), Nat.add_sub_cancel_left]

/-- The range of the second byte leaves out what would be too long, or a surrogate. -/
theorem start_of_three {n : Nat} (hn : n.isValidChar) (hlow : 0x800 ≤ n) (hhigh : n < 0x10000) :
    ∃ low high, start (0xE0 + n / 4096) = .begun ⟨n / 4096, 2, low, high⟩ ∧
      low ≤ 0x80 + n / 64 % 64 ∧ 0x80 + n / 64 % 64 ≤ high := by
  rw [start, if_neg (by omega), if_neg (by omega)]
  by_cases hfirst : n / 4096 = 0
  · exact ⟨0xA0, 0xBF, by rw [hfirst, if_pos (by rfl)], by omega, by omega⟩
  · by_cases hlast : n / 4096 = 13
    · refine ⟨0x80, 0x9F, by rw [hlast, if_neg (by decide), if_pos (by rfl)], by omega, ?_⟩
      rcases hn with hn | ⟨hn, -⟩ <;> omega
    · refine ⟨0x80, 0xBF, ?_, by omega, by omega⟩
      rw [if_neg (by omega), if_neg (by omega), if_pos (by omega), Nat.add_sub_cancel_left]

theorem start_of_four {n : Nat} (hn : n.isValidChar) (hlow : 0x10000 ≤ n) :
    ∃ low high, start (0xF0 + n / 262144) = .begun ⟨n / 262144, 3, low, high⟩ ∧
      low ≤ 0x80 + n / 4096 % 64 ∧ 0x80 + n / 4096 % 64 ≤ high := by
  have hhigh : n < 0x110000 := by rcases hn with hn | ⟨-, hn⟩ <;> omega
  rw [start, if_neg (by omega), if_neg (by omega), if_neg (by omega), if_neg (by omega),
    if_neg (by omega)]
  by_cases hfirst : n / 262144 = 0
  · exact ⟨0x90, 0xBF, by rw [hfirst, if_pos (by rfl)], by omega, by omega⟩
  · by_cases hlast : n / 262144 = 4
    · refine ⟨0x80, 0x8F, ?_, by omega, by omega⟩
      rw [hlast, if_neg (by decide), if_neg (by decide), if_pos (by rfl)]
    · refine ⟨0x80, 0xBF, ?_, by omega, by omega⟩
      rw [if_neg (by omega), if_pos (by omega), Nat.add_sub_cancel_left]

/-- A character is read back, whatever follows its bytes. -/
theorem decodeFrom_encodeChar (c : Char) (rest : List UInt8) :
    decodeFrom none (encodeChar c ++ rest) = c :: decodeFrom none rest := by
  have hvalid : c.toNat.isValidChar := c.valid
  have hchar : Char.ofNat c.toNat = c := Char.ofNat_toNat c
  have hsecond : c.toNat / 4096 = c.toNat / 64 / 64 := by omega
  have hthird : c.toNat / 262144 = c.toNat / 4096 / 64 := by omega
  obtain hone | ⟨hlow, hhigh⟩ | ⟨hlow, hhigh⟩ | hlow :
      c.toNat < 0x80 ∨ (0x80 ≤ c.toNat ∧ c.toNat < 0x800) ∨
        (0x800 ≤ c.toNat ∧ c.toNat < 0x10000) ∨ 0x10000 ≤ c.toNat := by omega
  · have hbytes : encodeChar c = [c.toNat.toUInt8] := if_pos hone
    rw [hbytes, List.singleton_append, decodeFrom, toNat_toUInt8 (by omega), step, open?, start,
      if_pos hone, hchar]
    rfl
  · have hbytes : encodeChar c =
        [(0xC0 + c.toNat / 64).toUInt8, (0x80 + c.toNat % 64).toUInt8] :=
      (if_neg (by omega)).trans (if_pos hhigh)
    rw [hbytes, List.cons_append, decodeFrom_first _ (by omega) (start_of_two hlow hhigh),
      List.singleton_append, decodeFrom_last _ (by omega) (by omega), hchar]
  · have hbytes : encodeChar c = [(0xE0 + c.toNat / 4096).toUInt8,
        (0x80 + c.toNat / 64 % 64).toUInt8, (0x80 + c.toNat % 64).toUInt8] :=
      (if_neg (by omega)).trans <| (if_neg (by omega)).trans (if_pos hhigh)
    obtain ⟨low, high, hstart, hleast, hmost⟩ := start_of_three hvalid hlow hhigh
    rw [hbytes, List.cons_append, decodeFrom_first _ (by omega) hstart, hsecond,
      List.cons_append, decodeFrom_further _ hleast hmost, List.singleton_append,
      decodeFrom_last _ (by omega) (by omega), hchar]
  · have hbytes : encodeChar c = [(0xF0 + c.toNat / 262144).toUInt8,
        (0x80 + c.toNat / 4096 % 64).toUInt8, (0x80 + c.toNat / 64 % 64).toUInt8,
        (0x80 + c.toNat % 64).toUInt8] :=
      (if_neg (by omega)).trans <| (if_neg (by omega)).trans (if_neg (by omega))
    have hhigh : c.toNat < 0x110000 := by rcases hvalid with h | ⟨-, h⟩ <;> omega
    obtain ⟨low, high, hstart, hleast, hmost⟩ := start_of_four hvalid hlow
    rw [hbytes, List.cons_append, decodeFrom_first _ (by omega) hstart, hthird,
      List.cons_append, decodeFrom_further _ hleast hmost, hsecond, List.cons_append,
      decodeFrom_further _ (by omega) (by omega), List.singleton_append,
      decodeFrom_last _ (by omega) (by omega), hchar]

theorem decode_encode (cs : List Char) : decode (encode cs) = cs := by
  rw [decode]
  induction cs with
  | nil => rfl
  | cons c cs ih =>
    rw [encode, List.flatMap_cons, decodeFrom_encodeChar]
    exact congrArg (c :: ·) ih

/-- The bytes of a character are those that core writes. -/
theorem encodeChar_eq (c : Char) : encodeChar c = String.utf8EncodeChar c := by
  have hvalid : c.toNat < 0x110000 := by
    rcases c.valid with h | ⟨-, h⟩
    · exact Nat.lt_trans h (by decide)
    · exact h
  unfold encodeChar String.utf8EncodeChar
  simp only [Nat.toUInt8_eq, Char.toNat_val]
  generalize c.toNat = n at hvalid
  by_cases hone : n < 0x80
  · rw [if_pos hone, if_pos (Nat.le_of_lt_succ hone)]
  rw [if_neg hone, if_neg (by omega : ¬n ≤ 127)]
  by_cases htwo : n < 0x800
  · have hfirst : n / 64 % 32 + 192 = 0xC0 + n / 64 := by omega
    rw [if_pos htwo, if_pos (Nat.le_of_lt_succ htwo), hfirst, Nat.add_comm 0x80]
  rw [if_neg htwo, if_neg (by omega : ¬n ≤ 2047)]
  by_cases hthree : n < 0x10000
  · have hfirst : n / 4096 % 16 + 224 = 0xE0 + n / 4096 := by omega
    rw [if_pos hthree, if_pos (Nat.le_of_lt_succ hthree), hfirst, Nat.add_comm 0x80,
      Nat.add_comm 0x80]
  · have hfirst : n / 262144 % 8 + 240 = 0xF0 + n / 262144 := by omega
    rw [if_neg hthree, if_neg (by omega : ¬n ≤ 65535), hfirst, Nat.add_comm 0x80,
      Nat.add_comm 0x80, Nat.add_comm 0x80]

theorem toByteArray_encode (s : String) : (encode s.toList).toByteArray = s.toUTF8 := by
  rw [String.toUTF8_eq_toByteArray, ← String.utf8Encode_toList, List.utf8Encode, encode,
    funext encodeChar_eq]

theorem fromUTF8?_encode (s : String) : String.fromUTF8? (encode s.toList).toByteArray = some s := by
  rw [toByteArray_encode, String.fromUTF8?, String.toUTF8_eq_toByteArray, dif_pos s.isValidUTF8]
  rfl

end PullRelay.Text.Utf8
