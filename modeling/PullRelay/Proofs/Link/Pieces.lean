import PullRelay.Link
import PullRelay.Proofs.Text.Pieces

/-!
# Links one after the other

A header of several links is cut where a comma, a space and an opening bracket stand between
two of them (`Link.cut_joinWith`).  The bracket in front of the first link stays, which makes no
difference to the link (`Link.map_ofPiece_cut_cons`).
-/

namespace PullRelay.Link

open Text

theorem cut_ne_nil (cs : List Char) : cut cs ≠ [] := by
  cases cs with
  | nil => exact List.cons_ne_nil _ _
  | cons c rest =>
    unfold cut
    split
    · exact List.cons_ne_nil _ _
    · split <;> exact List.cons_ne_nil _ _

theorem cut_cons_of_ne {c : Char} {rest piece : List Char} {pieces : List (List Char)}
    (hc : c ≠ ',') (h : cut rest = piece :: pieces) : cut (c :: rest) = (c :: piece) :: pieces := by
  rw [cut, h]
  exact if_neg fun hcomma ↦ hc hcomma.1

theorem cut_of_notMem {cs : List Char} (h : ',' ∉ cs) : cut cs = [cs] := by
  induction cs with
  | nil => rfl
  | cons c rest ih =>
    simp only [List.mem_cons, not_or] at h
    exact cut_cons_of_ne (Ne.symm h.1) (ih h.2)

theorem cut_append {before : List Char} (h : ',' ∉ before) (after : List Char) :
    cut (before ++ ", <".toList ++ after) = before :: cut after := by
  induction before with
  | nil =>
    obtain ⟨piece, pieces, hcut⟩ := List.exists_cons_of_ne_nil (cut_ne_nil after)
    have hspace : cut (' ' :: '<' :: after) = (' ' :: '<' :: piece) :: pieces :=
      cut_cons_of_ne (by decide) (cut_cons_of_ne (by decide) hcut)
    have hopens : ',' = ',' ∧ opensTarget (' ' :: '<' :: after) = true := ⟨rfl, rfl⟩
    show cut (',' :: ' ' :: '<' :: after) = [] :: cut after
    rw [cut, hspace, hcut]
    exact if_pos hopens
  | cons c rest ih =>
    simp only [List.mem_cons, not_or] at h
    exact cut_cons_of_ne (Ne.symm h.1) (ih h.2)

theorem cut_joinWith {pieces : List (List Char)} (hne : pieces ≠ [])
    (h : ∀ piece ∈ pieces, ',' ∉ piece) : cut (joinWith ", <".toList pieces) = pieces := by
  induction pieces with
  | nil => exact absurd rfl hne
  | cons piece pieces ih =>
    obtain ⟨hpiece, hpieces⟩ := List.forall_mem_cons.mp h
    by_cases hlast : pieces = []
    · rw [hlast]
      exact cut_of_notMem hpiece
    · rw [joinWith_cons _ _ hlast, cut_append hpiece, ih hlast hpieces]

/-- Does not belong to a target at its ends. -/
def surroundsTarget (c : Char) : Bool := isPadding c || c == '<' || c == '>'

theorem ofPiece_cons (cs : List Char) : ofPiece ('<' :: cs) = ofPiece cs := by
  have hsplit : splitFirst ';' ('<' :: cs) =
      ('<' :: (splitFirst ';' cs).1, (splitFirst ';' cs).2) := if_neg (by decide)
  rw [ofPiece, hsplit]
  rfl

theorem map_ofPiece_cut_cons (cs : List Char) :
    (cut ('<' :: cs)).map ofPiece = (cut cs).map ofPiece := by
  obtain ⟨piece, pieces, hcut⟩ := List.exists_cons_of_ne_nil (cut_ne_nil cs)
  rw [cut_cons_of_ne (by decide) hcut, hcut, List.map_cons, ofPiece_cons, List.map_cons]

section Attribute

variable {target value quotes : List Char}

/-- The quote at the end may be missing, for it is dropped at the end of a header. -/
theorem attribute?_append (hvalue : ∀ c ∈ value, isPadding c = false ∧ c ≠ ';' ∧ c ≠ '=')
    (hquotes : ∀ c ∈ quotes, c = '"') :
    attribute? (" rel=\"".toList ++ (value ++ quotes)) = some ("rel", String.ofList value) := by
  have hequals : '=' ∉ '"' :: (value ++ quotes) := by
    rw [List.mem_cons, List.mem_append, not_or, not_or]
    refine ⟨by decide, fun hmem ↦ (hvalue _ hmem).2.2 rfl, fun hmem ↦ ?_⟩
    exact absurd (hquotes _ hmem) (by decide)
  have hname : '=' ∉ " rel".toList := by decide
  have hsplit : splitAll '=' (" rel=\"".toList ++ (value ++ quotes)) =
      [" rel".toList, '"' :: (value ++ quotes)] := by
    rw [← splitAll_of_notMem hequals, ← splitAll_append hname]
    rfl
  have hpadding : ∀ c ∈ quotes, isPadding c = true := by
    intro c hc
    rw [hquotes c hc]
    rfl
  have hquote : ∀ c ∈ ['"'], isPadding c = true := List.forall_mem_singleton.mpr rfl
  have hunquoted : trimList isPadding ('"' :: (value ++ quotes)) = value :=
    trimList_around hquote hpadding fun c hc ↦ (hvalue c hc).1
  rw [attribute?, hsplit]
  simp only [hunquoted]
  rfl

/-- A target in brackets, and one attribute in quotes. -/
theorem ofPiece_append (htarget : ∀ c ∈ target, surroundsTarget c = false ∧ c ≠ ';')
    (hvalue : ∀ c ∈ value, isPadding c = false ∧ c ≠ ';' ∧ c ≠ '=')
    (hquotes : ∀ c ∈ quotes, c = '"') :
    ofPiece (target ++ (">; rel=\"".toList ++ (value ++ quotes))) =
      { target := String.ofList target, attributes := [("rel", String.ofList value)] } := by
  have hopen : ∀ c ∈ ([] : List Char), surroundsTarget c = true := List.forall_mem_nil _
  have hclose : ∀ c ∈ ['>'], surroundsTarget c = true := List.forall_mem_singleton.mpr rfl
  have htrim : trimList surroundsTarget (target ++ ['>']) = target :=
    trimList_around hopen hclose fun c hc ↦ (htarget c hc).1
  have hbracket : ';' ∉ target ++ ['>'] := by
    rw [List.mem_append, not_or]
    exact ⟨fun hmem ↦ (htarget _ hmem).2 rfl, by decide⟩
  have hfirst : splitFirst ';' (target ++ (">; rel=\"".toList ++ (value ++ quotes))) =
      (target ++ ['>'], some (" rel=\"".toList ++ (value ++ quotes))) := by
    rw [← splitFirst_append hbracket, List.append_assoc]
    rfl
  have hone : ';' ∉ " rel=\"".toList ++ (value ++ quotes) := by
    rw [List.mem_append, List.mem_append, not_or, not_or]
    refine ⟨by decide, fun hmem ↦ (hvalue _ hmem).2.1 rfl, fun hmem ↦ ?_⟩
    exact absurd (hquotes _ hmem) (by decide)
  rw [ofPiece, hfirst]
  simp only [Option.map_some, Option.getD_some, splitAll_of_notMem hone, attributesOf,
    attribute?_append hvalue hquotes]
  exact congrArg (fun text ↦ Link.mk (String.ofList text) _) htrim

end Attribute

end PullRelay.Link
