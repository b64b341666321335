import PullRelay.Proofs.Json.Documents
import PullRelay.Proofs.Json.Steps

/-!
# How deep documents go

A text that goes too deep is refused at that point.  If it does not, more room changes
nothing (`steady`), and a text never goes deeper than it is long (`bounded`).  So with room
for its length a text is read without regard to any limit, and within the limit the reader
finds the same (`read_eq_of_fits`).  Nothing that is read is deeper than there was room for
(`shallow`).
-/

namespace PullRelay.Json

variable {α β : Type}

/-- Nothing was refused for going too deep. -/
def Fits (r : Except Fault α) : Prop := ∀ container, r ≠ .error (.tooDeep container)

theorem fits_ok (a : α) : Fits (.ok a : Except Fault α) := by
  rintro container ⟨⟩

theorem fits_malformed : Fits (.error .malformed : Except Fault α) := by
  rintro container ⟨⟩

theorem not_fits_tooDeep (container : Kind) :
    ¬Fits (.error (.tooDeep container) : Except Fault α) := fun h ↦ h container rfl

theorem fits_orMalformed (a? : Option α) : Fits (orMalformed a?) := by
  cases a? with
  | none => exact fits_malformed
  | some a => exact fits_ok a

/-- The value matters to no refusal. -/
theorem Fits.error {fault : Fault} (h : Fits (.error fault : Except Fault α)) :
    Fits (.error fault : Except Fault β) := by
  rintro container ⟨⟩
  exact h container rfl

@[simp] theorem fits_map_iff {f : α → β} {r : Except Fault α} : Fits (r.map f) ↔ Fits r := by
  cases r with
  | ok a => exact ⟨fun _ ↦ fits_ok a, fun _ ↦ fits_ok (f a)⟩
  | error fault => exact ⟨Fits.error, Fits.error⟩

/-! ## More room -/

/-- With this fuel, more room changes nothing for what fits. -/
structure Steady (fuel : Nat) : Prop where
  value {depth depth' cs} (hle : depth ≤ depth') (h : Fits (readValue fuel depth cs)) :
    readValue fuel depth' cs = readValue fuel depth cs
  items {depth depth' cs} (hle : depth ≤ depth') (h : Fits (readItems fuel depth cs)) :
    readItems fuel depth' cs = readItems fuel depth cs
  fields {depth depth' cs} (hle : depth ≤ depth') (h : Fits (readFields fuel depth cs)) :
    readFields fuel depth' cs = readFields fuel depth cs

theorem steady (fuel : Nat) : Steady fuel := by
  induction fuel with
  | zero => exact ⟨fun _ _ ↦ rfl, fun _ _ ↦ rfl, fun _ _ ↦ rfl⟩
  | succ fuel ih =>
    refine ⟨?_, ?_, ?_⟩
    · intro depth depth' cs hle h
      cases cs with
      | nil => rfl
      | cons c rest =>
        by_cases hlist : c = '['
        · subst hlist
          cases depth with
          | zero => exact absurd h (not_fits_tooDeep _)
          | succ depth =>
            obtain ⟨depth', rfl⟩ := Nat.exists_eq_add_of_le' (Nat.le_of_add_left_le hle)
            rw [readValue_list] at h ⊢
            rw [readValue_list]
            split at h
            · rfl
            · rw [ih.items (Nat.le_of_succ_le_succ hle) (fits_map_iff.mp h)]
        · by_cases hobject : c = '\x7b'
          · subst hobject
            cases depth with
            | zero => exact absurd h (not_fits_tooDeep _)
            | succ depth =>
              obtain ⟨depth', rfl⟩ := Nat.exists_eq_add_of_le' (Nat.le_of_add_left_le hle)
              rw [readValue_object] at h ⊢
              rw [readValue_object]
              split at h
              · rfl
              · rw [ih.fields (Nat.le_of_succ_le_succ hle) (fits_map_iff.mp h)]
          · rw [readValue_plain hlist hobject, readValue_plain hlist hobject]
    · intro depth depth' cs hle h
      simp only [readItems] at h ⊢
      cases hv : readValue fuel depth cs with
      | error fault =>
        rw [hv] at h
        rw [ih.value hle (hv ▸ h.error), hv]
      | ok r =>
        rw [hv] at h
        rw [ih.value hle (hv ▸ fits_ok r), hv]
        dsimp only at h ⊢
        split at h
        · rfl
        · rw [ih.items hle (fits_map_iff.mp h)]
        · rfl
    · intro depth depth' cs hle h
      rw [readFields_succ] at h ⊢
      rw [readFields_succ]
      cases hname : readName? cs with
      | none => rfl
      | some read =>
        rw [hname] at h
        dsimp only at h ⊢
        cases hv : readValue fuel depth read.2 with
        | error fault =>
          rw [hv] at h
          rw [ih.value hle (hv ▸ h.error), hv]
        | ok r =>
          rw [hv] at h
          rw [ih.value hle (hv ▸ fits_ok r), hv]
          dsimp only at h ⊢
          split at h
          · rfl
          · rw [ih.fields hle (fits_map_iff.mp h)]
          · rfl

/-- With this fuel, a text is not refused for its depth if there is room for its length. -/
structure Bounded (fuel : Nat) : Prop where
  value {depth cs} (h : cs.length ≤ depth) : Fits (readValue fuel depth cs)
  items {depth cs} (h : cs.length ≤ depth) : Fits (readItems fuel depth cs)
  fields {depth cs} (h : cs.length ≤ depth) : Fits (readFields fuel depth cs)

theorem bounded (fuel : Nat) : Bounded fuel := by
  induction fuel with
  | zero => exact ⟨fun _ ↦ fits_malformed, fun _ ↦ fits_malformed, fun _ ↦ fits_malformed⟩
  | succ fuel ih =>
    refine ⟨?_, ?_, ?_⟩
    · intro depth cs h
      cases cs with
      | nil => exact fits_malformed
      | cons c rest =>
        obtain ⟨depth, rfl⟩ := Nat.exists_eq_add_of_le' (Nat.le_of_add_left_le h)
        have hinside : (skip rest).length ≤ depth :=
          Nat.le_trans (skip_suffix rest).length_le (Nat.le_of_succ_le_succ h)
        by_cases hlist : c = '['
        · subst hlist
          rw [readValue_list]
          split
          · exact fits_ok _
          · exact fits_map_iff.mpr (ih.items hinside)
        · by_cases hobject : c = '\x7b'
          · subst hobject
            rw [readValue_object]
            split
            · exact fits_ok _
            · exact fits_map_iff.mpr (ih.fields hinside)
          · rw [readValue_plain hlist hobject]
            exact fits_orMalformed _
    · intro depth cs h
      simp only [readItems]
      split
      next fault hv => exact (hv ▸ ih.value h : Fits (.error fault)).error
      next v after hv =>
        split
        · exact fits_ok _
        next rest hcomma =>
          have hrest := (skip_suffix rest).trans
            (suffix_of_skip_eq_cons hcomma ((remains fuel).value hv))
          exact fits_map_iff.mpr (ih.items (Nat.le_trans hrest.length_le h))
        · exact fits_malformed
    · intro depth cs h
      rw [readFields_succ]
      split
      · exact fits_malformed
      next name rest hname =>
        have hlater := readName?_suffix hname
        split
        next fault hv =>
          exact (hv ▸ ih.value (Nat.le_trans hlater.length_le h) : Fits (.error fault)).error
        next v after hv =>
          split
          · exact fits_ok _
          next rest hcomma =>
            have hrest := (skip_suffix rest).trans
              (suffix_of_skip_eq_cons hcomma (((remains fuel).value hv).trans hlater))
            exact fits_map_iff.mpr (ih.fields (Nat.le_trans hrest.length_le h))
          · exact fits_malformed

/-! ## Depth of what is read -/

theorem depth_readWord? {cs : List Char} {r : Value × List Char} (h : readWord? cs = some r) :
    r.1.depth = 0 := by
  obtain ⟨w, hw, hmore⟩ := List.exists_of_findSome?_eq_some h
  obtain ⟨after, -, rfl⟩ := Option.map_eq_some_iff.mp hmore
  revert w
  simp [words, Value.depth]

theorem depth_readNumber? {cs : List Char} {r : Value × List Char} (h : readNumber? cs = some r) :
    r.1.depth = 0 := by
  unfold readNumber? at h
  obtain ⟨whole, -, h⟩ := Option.bind_eq_some_iff.mp h
  dsimp only at h
  split at h
  · split at h <;> cases h
    rfl
  · cases h
    rfl

theorem depth_readPlain? {c : Char} {rest : List Char} {r : Value × List Char}
    (h : readPlain? c rest = some r) : r.1.depth = 0 := by
  unfold readPlain? at h
  split at h
  · obtain ⟨after, -, rfl⟩ := Option.map_eq_some_iff.mp h
    rfl
  · cases hword : readWord? (c :: rest) with
    | some read =>
      rw [hword] at h
      cases h
      exact depth_readWord? hword
    | none =>
      rw [hword] at h
      exact depth_readNumber? h

/-- With this fuel, nothing that is read is deeper than there is room for. -/
structure Shallow (fuel : Nat) : Prop where
  value {depth cs r} (h : readValue fuel depth cs = .ok r) : r.1.depth ≤ depth
  items {depth cs r} (h : readItems fuel depth cs = .ok r) : ∀ v ∈ r.1, v.depth ≤ depth
  fields {depth cs r} (h : readFields fuel depth cs = .ok r) : ∀ f ∈ r.1, f.2.depth ≤ depth

theorem shallow (fuel : Nat) : Shallow fuel := by
  induction fuel with
  | zero => exact ⟨nofun, nofun, nofun⟩
  | succ fuel ih =>
    refine ⟨?_, ?_, ?_⟩
    · intro depth cs r h
      cases cs with
      | nil => cases h
      | cons c rest =>
        by_cases hlist : c = '['
        · subst hlist
          cases depth with
          | zero => cases h
          | succ depth =>
            rw [readValue_list] at h
            split at h
            · cases h
              exact Value.depth_list_le_iff.mpr nofun
            · obtain ⟨r, hr, rfl⟩ := map_eq_ok_iff.mp h
              exact Value.depth_list_le_iff.mpr (ih.items hr)
        · by_cases hobject : c = '\x7b'
          · subst hobject
            cases depth with
            | zero => cases h
            | succ depth =>
              rw [readValue_object] at h
              split at h
              · cases h
                exact Value.depth_object_le_iff.mpr nofun
              · obtain ⟨r, hr, rfl⟩ := map_eq_ok_iff.mp h
                exact Value.depth_object_le_iff.mpr fun f hf ↦
                  ih.fields hr f (Value.mem_of_mem_collectFields hf)
          · rw [readValue_plain hlist hobject, orMalformed_eq_ok_iff] at h
            exact (depth_readPlain? h).trans_le (Nat.zero_le depth)
    · intro depth cs r h
      simp only [readItems] at h
      split at h
      · cases h
      next v after hv =>
        split at h
        · cases h
          exact List.forall_mem_singleton.mpr (ih.value hv)
        · obtain ⟨r, hr, rfl⟩ := map_eq_ok_iff.mp h
          exact List.forall_mem_cons.mpr ⟨ih.value hv, ih.items hr⟩
        · cases h
    · intro depth cs r h
      rw [readFields_succ] at h
      split at h
      · cases h
      next name rest hname =>
      split at h
      · cases h
      next v after hv =>
        split at h
        · cases h
          exact List.forall_mem_singleton.mpr (ih.value hv)
        · obtain ⟨r, hr, rfl⟩ := map_eq_ok_iff.mp h
          exact List.forall_mem_cons.mpr ⟨ih.value hv, ih.fields hr⟩
        · cases h

/-! ## Documents -/

theorem readWithin_of_le {depth depth' : Nat} (hle : depth ≤ depth') {s : String}
    (h : Fits (readWithin depth s)) : readWithin depth' s = readWithin depth s := by
  unfold readWithin at h ⊢
  split at h
  next v rest hv => rw [(steady _).value hle (hv ▸ fits_ok _), hv]
  next fault hv => rw [(steady _).value hle (hv ▸ h.error), hv]

/-- A text is read if there is room for as many containers as it has characters. -/
theorem fits_readWithin_length (s : String) : Fits (readWithin s.toList.length s) := by
  have hvalue := (bounded (2 * s.toList.length + 1)).value (skip_suffix s.toList).length_le
  unfold readWithin
  split
  next v rest hv =>
    split
    · exact fits_ok v
    · exact fits_malformed
  next fault hv => exact (hv ▸ hvalue : Fits (.error fault)).error

/-- Within its limit a text is read as it is without a limit. -/
theorem readWithin_eq_of_fits {depth : Nat} {s : String} (h : Fits (readWithin depth s)) :
    readWithin depth s = readWithin s.toList.length s := by
  rw [← readWithin_of_le (Nat.le_max_left depth s.toList.length) h,
    readWithin_of_le (Nat.le_max_right depth _) (fits_readWithin_length s)]

/-- What a document is read as is no deeper than there was room for. -/
theorem depth_le_of_readWithin {depth : Nat} {s : String} {v : Value}
    (h : readWithin depth s = .ok v) : v.depth ≤ depth := by
  unfold readWithin at h
  split at h
  next v' rest hread =>
    split at h
    · cases h
      exact (shallow _).value hread
    · cases h
  · cases h

theorem readItems_of_error {fuel depth : Nat} {cs : List Char} {fault : Fault}
    (h : readValue fuel depth cs = .error fault) :
    readItems (fuel + 1) depth cs = .error fault := by
  simp only [readItems, h]

/-- A bracket more is read in two steps. -/
theorem readValue_bracket_of_error {fuel depth n : Nat} {fault : Fault}
    (h : readValue fuel depth (List.replicate n '[') = .error fault) :
    readValue (fuel + 2) (depth + 1) (List.replicate (n + 1) '[') = .error fault := by
  have hopen : readValue (fuel + 2) (depth + 1) (List.replicate (n + 1) '[') =
      (readItems (fuel + 1) depth (List.replicate n '[')).map fun r ↦ (.list r.1, r.2) := by
    cases n <;> rfl
  rw [hopen, readItems_of_error h]
  rfl

theorem readValue_brackets_of_le {n depth : Nat} (h : n ≤ depth) (fuel : Nat) :
    readValue fuel depth (List.replicate n '[') = .error .malformed := by
  induction n generalizing fuel depth with
  | zero => cases fuel <;> rfl
  | succ n ih =>
    obtain ⟨depth, rfl⟩ := Nat.exists_eq_add_of_le' (Nat.le_of_add_left_le h)
    match fuel with
    | 0 => rfl
    | 1 => cases n <;> rfl
    | fuel + 2 => exact readValue_bracket_of_error (ih (Nat.le_of_succ_le_succ h) fuel)

theorem readValue_brackets_of_lt {n depth fuel : Nat} (h : depth < n) (hfuel : 2 * depth < fuel) :
    readValue fuel depth (List.replicate n '[') = .error (.tooDeep .list) := by
  induction depth generalizing n fuel with
  | zero =>
    obtain ⟨n, rfl⟩ := Nat.exists_eq_add_of_le' h
    obtain ⟨fuel, rfl⟩ := Nat.exists_eq_add_of_le' hfuel
    rfl
  | succ depth ih =>
    obtain ⟨n, rfl⟩ := Nat.exists_eq_add_of_le' (show 1 ≤ n by omega)
    obtain ⟨fuel, rfl⟩ := Nat.exists_eq_add_of_le' (show 2 ≤ fuel by omega)
    exact readValue_bracket_of_error (ih (by omega) (by omega))

/-- Brackets that are never closed are no document, and they are refused for their depth
before that is found if there is no room for all of them. -/
theorem readWithin_brackets (depth n : Nat) :
    readWithin depth (String.ofList (List.replicate n '[')) =
      .error (if depth < n then .tooDeep .list else .malformed) := by
  have hskip : skip (List.replicate n '[') = List.replicate n '[' := by cases n <;> rfl
  rw [readWithin, String.toList_ofList, List.length_replicate, hskip]
  by_cases h : depth < n
  · rw [readValue_brackets_of_lt h (by omega), if_pos h]
  · rw [readValue_brackets_of_le (Nat.le_of_not_lt h), if_neg h]

end PullRelay.Json
