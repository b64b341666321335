import PullRelay.Json.Reader

/-!
# Steps of the JSON readers

The readers of values, items and fields call one another.  What a value starts with decides
how it is read: a bracket or a brace opens a container, and anything else is read on the
spot (`readValue_plain`).  What follows a part that was read is an end of the text it was
read from (`remains`).
-/

namespace PullRelay.Json

open PullRelay.Text

variable {α β : Type}

/-! ## Steps -/

/-- A value that is no container. -/
def readPlain? (c : Char) (rest : List Char) : Option (Value × List Char) :=
  if c = '"' then (readText? rest).map fun r ↦ (.text r.1, r.2)
  else (readWord? (c :: rest)).orElse fun _ ↦ readNumber? (c :: rest)

/-- The name of a field with the colon after it, and what follows. -/
def readName? (cs : List Char) : Option (String × List Char) :=
  match cs with
  | '"' :: rest =>
    match readText? rest with
    | none => none
    | some (name, rest) =>
      match skip rest with
      | ':' :: rest => some (name, skip rest)
      | _ => none
  | _ => none

theorem readValue_plain {c : Char} (hlist : c ≠ '[') (hobject : c ≠ '\x7b') (fuel depth : Nat)
    (rest : List Char) :
    readValue (fuel + 1) depth (c :: rest) = orMalformed (readPlain? c rest) := by
  simp only [readValue, readPlain?, if_neg hlist, if_neg hobject]
  split
  · cases readText? rest <;> rfl
  · rfl

theorem readValue_list (fuel depth : Nat) (rest : List Char) :
    readValue (fuel + 1) (depth + 1) ('[' :: rest) =
      match skip rest with
      | ']' :: rest => .ok (.list [], rest)
      | rest => (readItems fuel depth rest).map fun r ↦ (.list r.1, r.2) := rfl

theorem readValue_object (fuel depth : Nat) (rest : List Char) :
    readValue (fuel + 1) (depth + 1) ('\x7b' :: rest) =
      match skip rest with
      | '\x7d' :: rest => .ok (.object [], rest)
      | rest =>
        (readFields fuel depth rest).map fun r ↦ (.object (Value.collectFields r.1), r.2) := rfl

theorem readFields_succ (fuel depth : Nat) (cs : List Char) :
    readFields (fuel + 1) depth cs =
      match readName? cs with
      | none => .error .malformed
      | some (name, rest) =>
        match readValue fuel depth rest with
        | .error f => .error f
        | .ok (v, rest) =>
          match skip rest with
          | '\x7d' :: rest => .ok ([(name, v)], rest)
          | ',' :: rest =>
            (readFields fuel depth (skip rest)).map fun r ↦ ((name, v) :: r.1, r.2)
          | _ => .error .malformed := by
  simp only [readFields]
  split
  next rest =>
    simp only [readName?]
    cases readText? rest with
    | none => rfl
    | some read =>
      dsimp only
      generalize skip read.2 = after
      split
      · rfl
      · simp
  · simp [readName?]

/-! ## What remains of a text

What follows a part that was read is an end of the text.
-/

theorem skip_suffix (cs : List Char) : skip cs <:+ cs := List.dropWhile_suffix _

theorem suffix_of_skip_eq_cons {c : Char} {cs after rest : List Char}
    (hskip : skip after = c :: rest) (h : after <:+ cs) : rest <:+ cs := by
  have hrest : c :: rest <:+ after := hskip ▸ skip_suffix after
  exact ((List.suffix_cons c rest).trans hrest).trans h

theorem spanDigits_suffix (cs : List Char) : (spanDigits cs).2 <:+ cs := List.dropWhile_suffix _

theorem takeSign_suffix (cs : List Char) : (Numeral.takeSign cs).2 <:+ cs := by
  unfold Numeral.takeSign
  split
  · exact List.suffix_cons _ _
  · exact List.suffix_cons _ _
  · exact List.suffix_rfl

theorem takeMinus_suffix (cs : List Char) : (Numeral.takeMinus cs).2 <:+ cs := by
  unfold Numeral.takeMinus
  split
  · exact List.suffix_cons _ _
  · exact List.suffix_rfl

theorem readWhole?_suffix {cs : List Char} {r : List Char × List Char}
    (h : readWhole? cs = some r) : r.2 <:+ cs := by
  unfold readWhole? at h
  split at h
  · cases h
  next c rest =>
    split at h
    · cases h
      exact List.suffix_cons _ _
    · split at h
      · cases h
        exact spanDigits_suffix (c :: rest)
      · cases h

theorem readFraction_suffix (cs : List Char) : (readFraction cs).2 <:+ cs := by
  unfold readFraction
  split
  · split
    · exact List.suffix_rfl
    · exact (spanDigits_suffix _).trans (List.suffix_cons _ _)
  · exact List.suffix_rfl

theorem readExponent_suffix (cs : List Char) : (readExponent cs).2 <:+ cs := by
  unfold readExponent
  split
  next c rest =>
    split
    · dsimp only
      split
      · exact List.suffix_rfl
      next ds after _ hspan =>
        have hafter := (spanDigits_suffix _).trans (takeSign_suffix rest)
        rw [hspan] at hafter
        exact hafter.trans (List.suffix_cons _ _)
    · exact List.suffix_rfl
  · exact List.suffix_rfl

theorem readNumber?_suffix {cs : List Char} {r : Value × List Char} (h : readNumber? cs = some r) :
    r.2 <:+ cs := by
  unfold readNumber? at h
  obtain ⟨whole, hwhole, h⟩ := Option.bind_eq_some_iff.mp h
  have hrest := (readExponent_suffix _).trans ((readFraction_suffix _).trans
    ((readWhole?_suffix hwhole).trans (takeMinus_suffix cs)))
  dsimp only at h
  split at h
  · split at h
    · cases h
    · cases h
      exact hrest
  · cases h
    exact hrest

theorem readWord?_suffix {cs : List Char} {r : Value × List Char} (h : readWord? cs = some r) :
    r.2 <:+ cs := by
  obtain ⟨w, -, hw⟩ := List.exists_of_findSome?_eq_some h
  obtain ⟨after, hafter, rfl⟩ := Option.map_eq_some_iff.mp hw
  unfold afterWord? at hafter
  split at hafter
  · cases hafter
    exact List.drop_suffix _ _
  · cases hafter

theorem readPieces?_suffix {cs : List Char} {r : List Piece × List Char}
    (h : readPieces? cs = some r) : r.2 <:+ cs := by
  fun_induction readPieces? cs generalizing r with
  | case1 | case4 | case6 | case7 | case8 => cases h
  | case2 =>
    cases h
    exact List.suffix_cons _ _
  | case3 x y z w more n _ _ ih =>
    obtain ⟨after, hafter, rfl⟩ := Option.map_eq_some_iff.mp h
    exact (ih hafter).trans (List.suffix_append ['\\', 'u', x, y, z, w] more)
  | case5 letter more _ _ _ _ ih =>
    obtain ⟨after, hafter, rfl⟩ := Option.map_eq_some_iff.mp h
    exact (ih hafter).trans (List.suffix_append ['\\', letter] more)
  | case9 c rest _ _ _ ih =>
    obtain ⟨after, hafter, rfl⟩ := Option.map_eq_some_iff.mp h
    exact (ih hafter).trans (List.suffix_cons c rest)

theorem readText?_suffix {cs : List Char} {r : String × List Char} (h : readText? cs = some r) :
    r.2 <:+ cs := by
  obtain ⟨after, hafter, rfl⟩ := Option.map_eq_some_iff.mp h
  exact readPieces?_suffix hafter

theorem readPlain?_suffix {c : Char} {rest : List Char} {r : Value × List Char}
    (h : readPlain? c rest = some r) : r.2 <:+ c :: rest := by
  unfold readPlain? at h
  split at h
  · obtain ⟨after, hafter, rfl⟩ := Option.map_eq_some_iff.mp h
    exact (readText?_suffix hafter).trans (List.suffix_cons c rest)
  · cases hword : readWord? (c :: rest) with
    | some read =>
      rw [hword] at h
      cases h
      exact readWord?_suffix hword
    | none =>
      rw [hword] at h
      exact readNumber?_suffix h

theorem readName?_suffix {cs : List Char} {r : String × List Char} (h : readName? cs = some r) :
    r.2 <:+ cs := by
  unfold readName? at h
  split at h
  next rest =>
    split at h
    · cases h
    next name after htext =>
      split at h
      next more hcolon =>
        cases h
        have hmore := suffix_of_skip_eq_cons hcolon (readText?_suffix htext)
        exact ((skip_suffix more).trans hmore).trans (List.suffix_cons '"' rest)
      · cases h
  · cases h

theorem orMalformed_eq_ok_iff {a? : Option α} {a : α} :
    orMalformed a? = .ok a ↔ a? = some a := by
  cases a? <;> simp [orMalformed]

theorem map_eq_ok_iff {f : α → β} {r : Except Fault α} {b : β} :
    r.map f = .ok b ↔ ∃ a, r = .ok a ∧ f a = b := by
  cases r <;> simp [Except.map]

/-- With this fuel, what follows a value, items or fields is an end of the text. -/
structure Remains (fuel : Nat) : Prop where
  value {depth cs r} (h : readValue fuel depth cs = .ok r) : r.2 <:+ cs
  items {depth cs r} (h : readItems fuel depth cs = .ok r) : r.2 <:+ cs
  fields {depth cs r} (h : readFields fuel depth cs = .ok r) : r.2 <:+ cs

theorem remains (fuel : Nat) : Remains fuel := by
  induction fuel with
  | zero => exact ⟨nofun, nofun, nofun⟩
  | succ fuel ih =>
    have hopened {c : Char} {rest : List Char} : skip rest <:+ c :: rest :=
      (skip_suffix rest).trans (List.suffix_cons c rest)
    refine ⟨?_, ?_, ?_⟩
    · intro depth cs r h
      cases cs with
      | nil => cases h
      | cons c rest =>
        by_cases hlist : c = '['
        · subst hlist
          cases depth with
          | zero => cases h
          | succ depth =>
            rw [readValue_list] at h
            split at h
            next rest' hempty =>
              cases h
              exact suffix_of_skip_eq_cons hempty (List.suffix_cons _ _)
            · obtain ⟨r, hr, rfl⟩ := map_eq_ok_iff.mp h
              exact (ih.items hr).trans hopened
        · by_cases hobject : c = '\x7b'
          · subst hobject
            cases depth with
            | zero => cases h
            | succ depth =>
              rw [readValue_object] at h
              split at h
              next rest' hempty =>
                cases h
                exact suffix_of_skip_eq_cons hempty (List.suffix_cons _ _)
              · obtain ⟨r, hr, rfl⟩ := map_eq_ok_iff.mp h
                exact (ih.fields hr).trans hopened
          · rw [readValue_plain hlist hobject, orMalformed_eq_ok_iff] at h
            exact readPlain?_suffix h
    · intro depth cs r h
      simp only [readItems] at h
      split at h
      · cases h
      next v after hv =>
        have hafter := ih.value hv
        split at h
        next rest hend =>
          cases h
          exact suffix_of_skip_eq_cons hend hafter
        next rest hcomma =>
          obtain ⟨r, hr, rfl⟩ := map_eq_ok_iff.mp h
          have hrest := (skip_suffix rest).trans (suffix_of_skip_eq_cons hcomma hafter)
          exact (ih.items hr).trans hrest
        · cases h
    · intro depth cs r h
      rw [readFields_succ] at h
      split at h
      · cases h
      next name rest hname =>
      split at h
      · cases h
      next v after hv =>
        have hafter := (ih.value hv).trans (readName?_suffix hname)
        split at h
        next rest hend =>
          cases h
          exact suffix_of_skip_eq_cons hend hafter
        next rest hcomma =>
          obtain ⟨r, hr, rfl⟩ := map_eq_ok_iff.mp h
          have hrest := (skip_suffix rest).trans (suffix_of_skip_eq_cons hcomma hafter)
          exact (ih.fields hr).trans hrest
        · cases h

end PullRelay.Json
