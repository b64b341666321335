import Mathlib.Data.List.Basic
import Mathlib.Data.List.TakeWhile
import PullRelay.Text.Blank
import PullRelay.Text.Pieces

/-!
# Cutting what was joined

Pieces that do not hold the separator come out of a joined text as they went in, with
separators of one character (`splitAll_joinWith`), and at the first one of them
(`splitFirst_append`).  Trimming stops at the first character that stays, from either end.
-/

namespace PullRelay.Text

section Cut

variable {sep : Char} {cs before : List Char}

theorem splitFirst_of_notMem (h : sep ∉ cs) : splitFirst sep cs = (cs, none) := by
  induction cs with
  | nil => rfl
  | cons c rest ih =>
    simp only [List.mem_cons, not_or] at h
    rw [splitFirst, if_neg (Ne.symm h.1), ih h.2]

theorem splitFirst_append (h : sep ∉ before) (after : List Char) :
    splitFirst sep (before ++ sep :: after) = (before, some after) := by
  induction before with
  | nil => rw [List.nil_append, splitFirst, if_pos rfl]
  | cons c rest ih =>
    simp only [List.mem_cons, not_or] at h
    rw [List.cons_append, splitFirst, if_neg (Ne.symm h.1), ih h.2]

/-- What is cut is put together with the separator. -/
theorem eq_append_of_splitFirst {after : List Char} (h : splitFirst sep cs = (before, some after)) :
    cs = before ++ sep :: after := by
  induction cs generalizing before with
  | nil => cases h
  | cons c rest ih =>
    rw [splitFirst] at h
    split at h
    next hc =>
      cases h
      rw [hc, List.nil_append]
    next hc =>
      obtain ⟨rfl, hafter⟩ := Prod.mk.inj h
      rw [List.cons_append, ← ih (Prod.ext rfl hafter)]

theorem splitAll_of_notMem (h : sep ∉ cs) : splitAll sep cs = [cs] := by
  induction cs with
  | nil => rfl
  | cons c rest ih =>
    simp only [List.mem_cons, not_or] at h
    rw [splitAll, if_neg (Ne.symm h.1), ih h.2]

theorem splitAll_append (h : sep ∉ before) (after : List Char) :
    splitAll sep (before ++ sep :: after) = before :: splitAll sep after := by
  induction before with
  | nil => rw [List.nil_append, splitAll, if_pos rfl]
  | cons c rest ih =>
    simp only [List.mem_cons, not_or] at h
    rw [List.cons_append, splitAll, if_neg (Ne.symm h.1), ih h.2]

/-- What stands on either side of a separator is cut on its own. -/
theorem splitAll_append_cons (before after : List Char) :
    splitAll sep (before ++ sep :: after) = splitAll sep before ++ splitAll sep after := by
  induction before with
  | nil => exact if_pos rfl
  | cons c rest ih =>
    rw [List.cons_append, splitAll, splitAll, ih]
    split
    · rfl
    · cases hs : splitAll sep rest with
      | nil => exact absurd hs (splitAll_ne_nil sep rest)
      | cons piece pieces => rfl

/-- A piece without separators ends where the next separator stands. -/
theorem splitAll_append_of_head? (h : sep ∉ cs) {after : List Char}
    (hafter : ∀ c ∈ after.head?, c = sep) :
    splitAll sep (cs ++ after) = cs :: (splitAll sep after).tail := by
  cases after with
  | nil => rw [List.append_nil, splitAll_of_notMem h, splitAll, List.tail_cons]
  | cons c after =>
    obtain rfl := hafter c rfl
    rw [splitAll_append h, splitAll, if_pos rfl, List.tail_cons]

end Cut

section Join

variable {sep : Char} {pieces : List (List Char)}

theorem joinWith_cons (sep : List Char) (piece : List Char) (hne : pieces ≠ []) :
    joinWith sep (piece :: pieces) = piece ++ sep ++ joinWith sep pieces := by
  cases pieces with
  | nil => exact absurd rfl hne
  | cons next rest => rfl

theorem mem_joinWith {sep : List Char} {c : Char} (h : c ∈ joinWith sep pieces) :
    c ∈ sep ∨ ∃ piece ∈ pieces, c ∈ piece := by
  induction pieces with
  | nil => cases h
  | cons piece pieces ih =>
    by_cases hlast : pieces = []
    · rw [hlast] at h ⊢
      exact .inr ⟨piece, List.mem_cons_self, h⟩
    · rw [joinWith_cons _ _ hlast, List.mem_append, List.mem_append] at h
      rcases h with (h | h) | h
      · exact .inr ⟨piece, List.mem_cons_self, h⟩
      · exact .inl h
      · refine (ih h).imp_right ?_
        rintro ⟨later, hlater, hc⟩
        exact ⟨later, List.mem_cons_of_mem _ hlater, hc⟩

/-- What is put after the last piece is put after the whole. -/
theorem joinWith_concat_append (sep : List Char) (pieces : List (List Char))
    (last more : List Char) :
    joinWith sep (pieces ++ [last ++ more]) = joinWith sep (pieces ++ [last]) ++ more := by
  induction pieces with
  | nil => rfl
  | cons piece pieces ih =>
    have hne (x : List Char) : pieces ++ [x] ≠ [] := by simp
    rw [List.cons_append, joinWith_cons _ _ (hne _), ih, List.cons_append,
      joinWith_cons _ _ (hne _), List.append_assoc (piece ++ sep)]

/-- What every piece begins with may be counted to the separator instead. -/
theorem joinWith_map_cons (sep : List Char) (c : Char) (hne : pieces ≠ []) :
    joinWith sep (pieces.map (c :: ·)) = c :: joinWith (sep ++ [c]) pieces := by
  induction pieces with
  | nil => exact absurd rfl hne
  | cons piece pieces ih =>
    by_cases hlast : pieces = []
    · rw [hlast]
      rfl
    · have hmap : pieces.map (c :: ·) ≠ [] := by simpa using hlast
      rw [List.map_cons, joinWith_cons _ _ hmap, ih hlast, joinWith_cons _ _ hlast]
      simp only [List.append_assoc, List.cons_append, List.nil_append]

/-- At least one piece is needed, for the empty text is one piece as well. -/
theorem splitAll_joinWith (hne : pieces ≠ []) (h : ∀ piece ∈ pieces, sep ∉ piece) :
    splitAll sep (joinWith [sep] pieces) = pieces := by
  induction pieces with
  | nil => exact absurd rfl hne
  | cons piece pieces ih =>
    obtain ⟨hpiece, hpieces⟩ := List.forall_mem_cons.mp h
    by_cases hlast : pieces = []
    · rw [hlast]
      exact splitAll_of_notMem hpiece
    · rw [joinWith_cons _ _ hlast, List.append_assoc, List.singleton_append,
        splitAll_append hpiece, ih hlast hpieces]

end Join

section Trim

variable {p : Char → Bool} {before cs after : List Char}

/-- What is trimmed stands before the first and after the last character that stays. -/
theorem trimList_between (hbefore : ∀ c ∈ before, p c = true) (hafter : ∀ c ∈ after, p c = true)
    (hhead : ∀ c ∈ cs.head?, p c = false) (hlast : ∀ c ∈ cs.getLast?, p c = false) :
    trimList p (before ++ (cs ++ after)) = cs := by
  have hreverse : ∀ c ∈ after.reverse, p c = true := by simpa using hafter
  rw [trimList, List.dropWhile_append_of_pos hbefore]
  cases cs with
  | nil => rw [List.nil_append, List.dropWhile_eq_nil_iff.mpr hafter]; rfl
  | cons c rest =>
    have hc : ¬p c = true := Bool.eq_false_iff.mp (hhead c rfl)
    obtain ⟨init, last, hinit⟩ : ∃ init last, c :: rest = init ++ [last] :=
      (List.eq_nil_or_concat' _).resolve_left (List.cons_ne_nil _ _)
    have hlast' : ¬p last = true := by
      refine Bool.eq_false_iff.mp (hlast last ?_)
      rw [hinit, List.getLast?_concat]
      rfl
    rw [List.cons_append, List.dropWhile_cons_of_neg hc, ← List.cons_append, hinit,
      List.reverse_append, List.dropWhile_append_of_pos hreverse, List.reverse_concat,
      List.dropWhile_cons_of_neg hlast', ← List.reverse_concat, List.reverse_reverse]

/-- So a text of characters that all stay is freed of what stands around it. -/
theorem trimList_around (hbefore : ∀ c ∈ before, p c = true) (hafter : ∀ c ∈ after, p c = true)
    (hcs : ∀ c ∈ cs, p c = false) : trimList p (before ++ (cs ++ after)) = cs :=
  trimList_between hbefore hafter (fun c hc ↦ hcs c (List.mem_of_mem_head? hc))
    fun c hc ↦ hcs c (List.mem_of_getLast? hc)

/-- What is trimmed off is in `p`, and what is left neither begins nor ends with such a
character. -/
theorem exists_trimList (p : Char → Bool) (cs : List Char) :
    ∃ before after, cs = before ++ (trimList p cs ++ after) ∧
      (∀ c ∈ before, p c = true) ∧ (∀ c ∈ after, p c = true) ∧
      (∀ c ∈ (trimList p cs).head?, p c = false) ∧ ∀ c ∈ (trimList p cs).getLast?, p c = false := by
  have hhead (cs : List Char) : ∀ c ∈ (cs.dropWhile p).head?, p c = false := by
    intro c hc
    have hnot := List.head?_dropWhile_not p cs
    rw [Option.mem_def.mp hc] at hnot
    exact hnot
  let after := ((cs.dropWhile p).reverse.takeWhile p).reverse
  have hkept : cs.dropWhile p = trimList p cs ++ after := by
    rw [trimList, ← List.reverse_append, List.takeWhile_append_dropWhile, List.reverse_reverse]
  refine ⟨cs.takeWhile p, after, ?_, fun c hc ↦ List.mem_takeWhile_imp hc, ?_, ?_, ?_⟩
  · rw [← hkept, List.takeWhile_append_dropWhile]
  · intro c hc
    exact List.mem_takeWhile_imp (List.mem_reverse.mp hc)
  · intro c hc
    refine hhead cs c ?_
    rw [hkept, List.head?_append, Option.mem_def.mp hc]
    rfl
  · intro c hc
    rw [trimList, List.getLast?_reverse] at hc
    exact hhead _ c hc

/-- Trimming twice is trimming once. -/
@[simp] theorem trimList_trimList (p : Char → Bool) (cs : List Char) :
    trimList p (trimList p cs) = trimList p cs := by
  obtain ⟨-, -, -, -, -, hhead, hlast⟩ := exists_trimList p cs
  have htwice : trimList p ([] ++ (trimList p cs ++ [])) = trimList p cs :=
    trimList_between (by simp) (by simp) hhead hlast
  rwa [List.nil_append, List.append_nil] at htwice

@[simp] theorem strip_strip (s : String) : strip (strip s) = strip s := by
  rw [strip, trim, toList_strip, trimList_trimList]
  rfl

end Trim

end PullRelay.Text
