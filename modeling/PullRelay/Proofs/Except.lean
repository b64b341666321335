/-!
# Steps that may fail

Readers and checks are written one step after the other.  What the whole of them comes to tells
what each step came to.  A computation along a list comes to what its first failing step
does (`mapM_eq_error_iff`).
-/

namespace PullRelay

variable {ε α β γ : Type}

theorem Except.exists_of_bind_eq_ok {x : Except ε α} {f : α → Except ε β} {b : β}
    (h : x >>= f = .ok b) : ∃ a, x = .ok a ∧ f a = .ok b := by
  cases x with
  | error e => cases h
  | ok a => exact ⟨a, rfl, h⟩

theorem Except.bind_eq_ok_iff {x : Except ε α} {f : α → Except ε β} {b : β} :
    x >>= f = .ok b ↔ ∃ a, x = .ok a ∧ f a = .ok b := by
  refine ⟨exists_of_bind_eq_ok, ?_⟩
  rintro ⟨a, rfl, h⟩
  exact h

/-- What goes wrong first is what goes wrong. -/
theorem Except.eq_error_of_bind {x : Except ε α} {f : α → Except ε β} {e : ε}
    (h : x >>= f = .error e) : x = .error e ∨ ∃ a, x = .ok a ∧ f a = .error e := by
  cases x with
  | error e' => exact .inl (congrArg Except.error (Except.error.inj h))
  | ok a => exact .inr ⟨a, rfl, h⟩

theorem Except.exists_of_map_eq_ok {x : Except ε α} {f : α → β} {b : β}
    (h : x.map f = .ok b) : ∃ a, x = .ok a ∧ f a = b := by
  cases x with
  | error e => cases h
  | ok a => exact ⟨a, rfl, Except.ok.inj h⟩

theorem Except.of_map_eq_error {x : Except ε α} {f : α → β} {e : ε} (h : x.map f = .error e) :
    x = .error e := by
  cases x with
  | error e' => exact congrArg Except.error (Except.error.inj h)
  | ok a => cases h

/-- A computation on what another one comes to may be moved into it. -/
theorem Except.map_bind (x : Except ε α) (f : α → Except ε β) (g : β → γ) :
    (x >>= f).map g = x >>= fun a ↦ (f a).map g := by cases x <;> rfl

/-- A computation along a list gets as far as this item: it succeeds on all before it. -/
def Reaches (f : α → Except ε β) (l : List α) (x : α) : Prop :=
  ∃ before after, l = before ++ x :: after ∧ ∀ y ∈ before, ∃ b, f y = .ok b

theorem reaches_cons_iff {f : α → Except ε β} {l : List α} {x y : α} :
    Reaches f (y :: l) x ↔ x = y ∨ (∃ b, f y = .ok b) ∧ Reaches f l x := by
  constructor
  · rintro ⟨_ | ⟨z, before⟩, after, hl, hbefore⟩
    · exact .inl (List.cons.inj hl).1.symm
    · obtain ⟨rfl, rfl⟩ := List.cons.inj hl
      exact .inr ⟨hbefore y List.mem_cons_self, before, after, rfl, fun z hz ↦
        hbefore z (List.mem_cons_of_mem _ hz)⟩
  · rintro (rfl | ⟨hy, before, after, rfl, hbefore⟩)
    · exact ⟨[], l, rfl, by simp⟩
    · exact ⟨y :: before, after, rfl, by simpa using ⟨hy, hbefore⟩⟩

/-- What the items that are read are made into does not matter. -/
theorem reaches_map_iff {f : α → Except ε β} {g : β → γ} {l : List α} {x : α} :
    Reaches (fun y ↦ (f y).map g) l x ↔ Reaches f l x := by
  have hok (y) : (∃ c, (f y).map g = .ok c) ↔ ∃ b, f y = .ok b := by
    cases f y <;> simp [Except.map]
  simp only [Reaches, hok]

theorem mapM_eq_error_iff {f : α → Except ε β} {l : List α} {e : ε} :
    l.mapM f = .error e ↔ ∃ x, Reaches f l x ∧ f x = .error e := by
  induction l with
  | nil =>
    constructor
    · rintro ⟨⟩
    · rintro ⟨x, ⟨before, after, h, -⟩, -⟩
      simp at h
  | cons y l ih =>
    simp only [reaches_cons_iff, or_and_right, exists_or, exists_eq_left, and_assoc,
      exists_and_left, ← ih, List.mapM_cons]
    cases hy : f y with
    | error e' => simp [bind, Except.bind]
    | ok b => cases l.mapM f <;> simp [bind, Except.bind, pure, Except.pure]

end PullRelay
