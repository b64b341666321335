import Mathlib.Data.List.Basic
import PullRelay.Pipeline.Contexts

/-!
# Savepoints

A savepoint is a length and nothing else, so what it stands for is lost if something before it
is forgotten.  That does not happen as long as savepoints nest: between taking one and rolling
back to it there is no rollback to an earlier one (`Contexts.WellNested`).  Then each rollback
leaves the buffer that was there when its savepoint was taken, for all contexts, whichever of them
did what (`Contexts.rollback_restores`).

While a savepoint is not rolled back past, the buffer of then is the front of the buffer, and later
savepoints do not go below it.  This is the invariant (`Contexts.Journal.Holds`).
-/

namespace PullRelay.Contexts

variable {π ι : Type}

/-! ## What contexts see -/

theorem staged_of_use {c c' : Contexts π ι} {i : Int} (h : c.use i = .ok c') :
    c'.staged = c.staged := by
  unfold use at h
  extract_lets place at h
  split at h
  · cases h
  · split at h
    · cases h
    · split at h
      · cases h
        rfl
      · cases h

/-- All contexts that an index can name see the buffer. -/
def Shows (c : Contexts π ι) (buffer : List ι) : Prop :=
  ∀ i : Nat, i < c.pages.length → (i : Int) < Int.pow 2 63 → (c.use i).map staged = .ok buffer

theorem shows_staged (c : Contexts π ι) : c.Shows c.staged := by
  intro i hi hlimit
  have hrange : ¬((i : Int) < -Int.pow 2 63 ∨ Int.pow 2 63 ≤ (i : Int)) := by
    have hpow : 0 < Int.pow 2 63 := by decide
    omega
  have hplace : ¬(i : Int) < 0 := by omega
  simp only [use, Int.natCast_nonneg, if_true, if_neg hrange, if_neg hplace, Int.toNat_natCast,
    List.getElem?_eq_getElem hi]
  rfl

/-! ## Steps -/

/-- What is done through a context.  A rollback names its savepoint by the place among all that
were taken. -/
inductive Act (π ι : Type) where
  | withPage (page : π)
  | stage (items : List ι)
  | savepoint
  | rollback (place : Nat)

/-- The context that does something, by its index, and what it does. -/
abbrev Step (π ι : Type) := Int × Act π ι

/-- Contexts over one buffer, and the savepoints that were taken so far. -/
structure Journal (π ι : Type) where
  contexts : Contexts π ι
  taken : List Nat := []

namespace Journal

/-- Do something through the current context.  There is no rollback to what was not taken. -/
def perform (j : Journal π ι) : Act π ι → Option (Journal π ι)
  | .withPage page => some { j with contexts := j.contexts.withPage page }
  | .stage items => some { j with contexts := j.contexts.stage items }
  | .savepoint => some { j with taken := j.taken ++ [j.contexts.savepoint] }
  | .rollback place =>
    (j.taken[place]?).map fun n ↦ { j with contexts := j.contexts.rollback n }

/-- Take a step: make the context the current one, and do it. -/
def step (j : Journal π ι) (x : Step π ι) : Option (Journal π ι) :=
  (j.contexts.use x.1).toOption.bind fun contexts ↦ { j with contexts }.perform x.2

/-- Take steps in order. -/
def run (steps : List (Step π ι)) (j : Journal π ι) : Option (Journal π ι) := steps.foldlM step j

end Journal

/-- The step takes a savepoint. -/
def Act.isSavepoint : Act π ι → Bool
  | .savepoint => true
  | _ => false

/-- The number of savepoints that are taken. -/
def savepoints (steps : List (Step π ι)) : Nat := steps.countP fun x ↦ x.2.isSavepoint

theorem savepoints_cons_of_isSavepoint {x : Step π ι} (hx : x.2.isSavepoint = true)
    (steps : List (Step π ι)) : savepoints (x :: steps) = savepoints steps + 1 :=
  List.countP_cons_of_pos hx

theorem savepoints_cons_of_not {x : Step π ι} (hx : x.2.isSavepoint = false)
    (steps : List (Step π ι)) : savepoints (x :: steps) = savepoints steps :=
  List.countP_cons_of_neg (Bool.eq_false_iff.mp hx)

theorem Act.eq_of_isSavepoint {a : Act π ι} (h : a.isSavepoint = true) : a = .savepoint := by
  cases a with
  | savepoint => rfl
  | withPage | stage | rollback => cases h

/-- In steps with more savepoints than that, there is a place where the next one is taken. -/
theorem exists_savepoint {steps : List (Step π ι)} {k : Nat} (h : k < savepoints steps) :
    ∃ before i between, steps = before ++ (i, .savepoint) :: between ∧ savepoints before = k := by
  induction steps generalizing k with
  | nil => exact absurd h (Nat.not_lt_zero k)
  | cons x steps ih =>
    cases hx : x.2.isSavepoint with
    | true =>
      cases k with
      | zero => exact ⟨[], x.1, steps, by rw [← Act.eq_of_isSavepoint hx]; rfl, rfl⟩
      | succ k =>
        rw [savepoints_cons_of_isSavepoint hx] at h
        obtain ⟨before, i, between, rfl, hbefore⟩ := ih (Nat.lt_of_succ_lt_succ h)
        exact ⟨x :: before, i, between, rfl, by rw [savepoints_cons_of_isSavepoint hx, hbefore]⟩
    | false =>
      rw [savepoints_cons_of_not hx] at h
      obtain ⟨before, i, between, rfl, hbefore⟩ := ih h
      exact ⟨x :: before, i, between, rfl, by rw [savepoints_cons_of_not hx, hbefore]⟩

/-- Between taking a savepoint and rolling back to it, every rollback is to this savepoint or to
one that was taken later. -/
def WellNested (steps : List (Step π ι)) : Prop :=
  ∀ before i between i' k after,
    steps = before ++ (i, .savepoint) :: (between ++ (i', .rollback k) :: after) →
    savepoints before = k → ∀ x ∈ between, ∀ k', x.2 = .rollback k' → k ≤ k'

/-- If the later step goes back to a savepoint, the earlier one does not go back further. -/
def Act.spares (k : Nat) : Act π ι → Act π ι → Bool
  | .rollback earlier, .rollback later => later != k || decide (k ≤ earlier)
  | _, _ => true

theorem Act.spares_iff {k : Nat} {a b : Act π ι} :
    a.spares k b = true ↔ (b = .rollback k → ∀ k', a = .rollback k' → k ≤ k') := by
  cases a with
  | withPage | stage | savepoint => simp [spares]
  | rollback earlier =>
    cases b with
    | withPage | stage | savepoint => simp [spares]
    | rollback later =>
      simp only [spares, Bool.or_eq_true, bne_iff_ne, decide_eq_true_eq, rollback.injEq, forall_eq']
      exact imp_iff_not_or.symm

/-- The steps that follow a savepoint spare it. -/
def nestsFrom : Nat → List (Step π ι) → Bool
  | _, [] => true
  | k, x :: rest =>
    if x.2.isSavepoint then
      decide (rest.Pairwise fun x y ↦ x.2.spares k y.2) && nestsFrom (k + 1) rest
    else nestsFrom k rest

theorem nestsFrom_iff {k : Nat} {steps : List (Step π ι)} : nestsFrom k steps = true ↔
    ∀ before i rest, steps = before ++ (i, .savepoint) :: rest →
      rest.Pairwise fun x y ↦ x.2.spares (k + savepoints before) y.2 := by
  induction steps generalizing k with
  | nil => simp [nestsFrom]
  | cons x steps ih =>
    cases hx : x.2.isSavepoint with
    | true =>
      have hact := Act.eq_of_isSavepoint hx
      rw [nestsFrom, if_pos hx, Bool.and_eq_true, decide_eq_true_eq, ih]
      constructor
      · rintro ⟨hfirst, hmore⟩ before i rest hsteps
        rcases List.cons_eq_append_iff.mp hsteps with ⟨rfl, hrest⟩ | ⟨before, rfl, rfl⟩
        · obtain ⟨-, rfl⟩ := List.cons.inj hrest
          exact hfirst
        · rw [savepoints_cons_of_isSavepoint hx, ← Nat.add_assoc, Nat.add_right_comm]
          exact hmore before i rest rfl
      · intro h
        refine ⟨h [] x.1 steps (by rw [← hact]; rfl), fun before i rest hsteps ↦ ?_⟩
        have hlater := h (x :: before) i rest (by rw [hsteps]; rfl)
        rwa [savepoints_cons_of_isSavepoint hx, ← Nat.add_assoc, Nat.add_right_comm] at hlater
    | false =>
      rw [nestsFrom, hx, if_neg Bool.false_ne_true, ih]
      constructor
      · intro hmore before i rest hsteps
        rcases List.cons_eq_append_iff.mp hsteps with ⟨rfl, hrest⟩ | ⟨before, rfl, rfl⟩
        · obtain ⟨rfl, -⟩ := List.cons.inj hrest
          cases hx
        · rw [savepoints_cons_of_not hx]
          exact hmore before i rest rfl
      · intro h before i rest hsteps
        have hlater := h (x :: before) i rest (by rw [hsteps]; rfl)
        rwa [savepoints_cons_of_not hx] at hlater

theorem wellNested_iff {steps : List (Step π ι)} :
    WellNested steps ↔ nestsFrom 0 steps = true := by
  rw [nestsFrom_iff]
  constructor
  · intro h before i rest hsteps
    rw [Nat.zero_add, List.pairwise_iff_getElem]
    intro p q hp hq hpq
    have hsplit : rest = rest.take q ++ rest[q] :: rest.drop (q + 1) := by
      rw [List.getElem_cons_drop, List.take_append_drop]
    refine Act.spares_iff.mpr fun hback k' hk' ↦ ?_
    refine h before i (rest.take q) rest[q].1 _ (rest.drop (q + 1)) ?_ rfl rest[p] ?_ k' hk'
    · rw [← hback, hsteps]
      exact congrArg (fun rest ↦ before ++ (i, Act.savepoint) :: rest) hsplit
    · exact List.mem_take_iff_getElem.mpr ⟨p, by omega, rfl⟩
  · intro h before i between i' k after hsteps hbefore x hx k' hk'
    have hpairs := h before i _ hsteps
    rw [Nat.zero_add, hbefore] at hpairs
    have hspares := (List.pairwise_append.mp hpairs).2.2 x hx _ List.mem_cons_self
    exact Act.spares_iff.mp hspares rfl k' hk'

instance (steps : List (Step π ι)) : Decidable (WellNested steps) :=
  decidable_of_iff _ wellNested_iff.symm

/-! ## What a step does to the buffer -/

/-- What becomes of the buffer and of the savepoints, whichever context is the current one. -/
def Act.effect (staged : List ι) (taken : List Nat) : Act π ι → Option (List ι × List Nat)
  | .withPage _ => some (staged, taken)
  | .stage items => some (staged ++ items, taken)
  | .savepoint => some (staged, taken ++ [staged.length])
  | .rollback place => (taken[place]?).map fun n ↦ (staged.take n, taken)

namespace Journal

variable {j j' : Journal π ι} {x : Step π ι} {steps : List (Step π ι)}

/-- A step does the same to the buffer through all contexts. -/
theorem effect_of_step (h : j.step x = some j') :
    x.2.effect j.contexts.staged j.taken = some (j'.contexts.staged, j'.taken) := by
  obtain ⟨contexts, huse, hperform⟩ := Option.bind_eq_some_iff.mp h
  have hstaged : contexts.staged = j.contexts.staged := by
    cases hc : j.contexts.use x.1 with
    | error fault => simp [hc, Except.toOption] at huse
    | ok c =>
      rw [hc] at huse
      rw [← Option.some.inj huse]
      exact staged_of_use hc
  cases hact : x.2 with
  | withPage page | stage items | savepoint =>
    rw [hact] at hperform
    obtain rfl := Option.some.inj hperform
    simp only [Act.effect, ← hstaged]
    rfl
  | rollback place =>
    rw [hact] at hperform
    obtain ⟨n, hn, rfl⟩ := Option.map_eq_some_iff.mp hperform
    simp only [Act.effect, ← hstaged]
    exact Option.map_eq_some_iff.mpr ⟨n, hn, rfl⟩

theorem run_append (before after : List (Step π ι)) (j : Journal π ι) :
    run (before ++ after) j = (run before j).bind (run after) := List.foldlM_append

theorem run_cons (x : Step π ι) (steps : List (Step π ι)) (j : Journal π ι) :
    run (x :: steps) j = (j.step x).bind (run steps) := List.foldlM_cons

/-- What a whole run does to the buffer does not depend on the contexts either. -/
theorem run_congr {steps' : List (Step π ι)} {j₁ j₁' : Journal π ι} (h : run steps j = some j')
    (h₁ : run steps' j₁ = some j₁') (hacts : steps'.map Prod.snd = steps.map Prod.snd)
    (hstaged : j₁.contexts.staged = j.contexts.staged) (htaken : j₁.taken = j.taken) :
    j₁'.contexts.staged = j'.contexts.staged ∧ j₁'.taken = j'.taken := by
  induction steps generalizing steps' j j₁ with
  | nil =>
    obtain rfl := List.map_eq_nil_iff.mp hacts
    cases h
    cases h₁
    exact ⟨hstaged, htaken⟩
  | cons x steps ih =>
    obtain ⟨y, more, rfl, hact, hmore⟩ := List.map_eq_cons_iff.mp hacts
    rw [run_cons] at h h₁
    obtain ⟨k, hk, h⟩ := Option.bind_eq_some_iff.mp h
    obtain ⟨k₁, hk₁, h₁⟩ := Option.bind_eq_some_iff.mp h₁
    have heffect := effect_of_step hk
    rw [← hact, ← hstaged, ← htaken, effect_of_step hk₁] at heffect
    obtain ⟨hk_staged, hk_taken⟩ := Prod.mk.inj (Option.some.inj heffect)
    exact ih h h₁ hmore hk_staged hk_taken

theorem length_taken_of_run (h : run steps j = some j') :
    j'.taken.length = j.taken.length + savepoints steps := by
  induction steps generalizing j with
  | nil =>
    cases h
    rfl
  | cons x steps ih =>
    rw [run_cons] at h
    obtain ⟨k, hk, h⟩ := Option.bind_eq_some_iff.mp h
    have heffect := effect_of_step hk
    have hone : k.taken.length = j.taken.length + savepoints [x] := by
      cases hact : x.2 with
      | withPage _ | stage _ | savepoint =>
        rw [hact] at heffect
        obtain ⟨-, htaken⟩ := Prod.mk.inj (Option.some.inj heffect)
        rw [← htaken]
        simp [savepoints, hact, Act.isSavepoint]
      | rollback place =>
        rw [hact] at heffect
        obtain ⟨_, -, hn⟩ := Option.map_eq_some_iff.mp heffect
        rw [← (Prod.mk.inj hn).2]
        simp [savepoints, hact, Act.isSavepoint]
    rw [ih h, hone, Nat.add_assoc, savepoints, savepoints, savepoints, ← List.countP_append]
    rfl

/-- The buffer of a savepoint is still the front of the buffer, and no later savepoint goes below
it. -/
structure Holds (k : Nat) (buffer : List ι) (j : Journal π ι) : Prop where
  front : buffer <+: j.contexts.staged
  own : j.taken[k]? = some buffer.length
  later {k' n} (hk : k ≤ k') (hn : j.taken[k']? = some n) : buffer.length ≤ n

variable {k : Nat} {buffer : List ι}

/-- It holds where the savepoint is taken. -/
theorem holds_of_savepoint {i : Int} (h : j.step (i, .savepoint) = some j') :
    Holds j.taken.length j.contexts.staged j' := by
  obtain ⟨hstaged, htaken⟩ := Prod.mk.inj (Option.some.inj (effect_of_step h))
  refine ⟨hstaged ▸ List.prefix_rfl, by rw [← htaken, List.getElem?_concat_length], fun hk hn ↦ ?_⟩
  rw [← htaken, List.getElem?_append_right hk] at hn
  exact Nat.le_of_eq (List.mem_singleton.mp (List.mem_of_getElem? hn)).symm

/-- A step keeps it, if it does not roll back further. -/
theorem Holds.step (h : Holds k buffer j) (hx : ∀ k', x.2 = .rollback k' → k ≤ k')
    (hstep : j.step x = some j') : Holds k buffer j' := by
  have heffect := effect_of_step hstep
  cases hact : x.2 with
  | withPage page =>
    rw [hact] at heffect
    obtain ⟨hstaged, htaken⟩ := Prod.mk.inj (Option.some.inj heffect)
    exact ⟨hstaged ▸ h.front, htaken ▸ h.own, htaken ▸ h.later⟩
  | stage items =>
    rw [hact] at heffect
    obtain ⟨hstaged, htaken⟩ := Prod.mk.inj (Option.some.inj heffect)
    refine ⟨?_, htaken ▸ h.own, htaken ▸ h.later⟩
    rw [← hstaged]
    exact h.front.trans (List.prefix_append _ _)
  | savepoint =>
    rw [hact] at heffect
    obtain ⟨hstaged, htaken⟩ := Prod.mk.inj (Option.some.inj heffect)
    have hplace : k < j.taken.length := (List.getElem?_eq_some_iff.mp h.own).1
    refine ⟨hstaged ▸ h.front, ?_, fun hk hn ↦ ?_⟩
    · rw [← htaken, List.getElem?_append_left hplace, h.own]
    · rw [← htaken, List.getElem?_append] at hn
      split at hn
      · exact h.later hk hn
      · rw [List.mem_singleton.mp (List.mem_of_getElem? hn)]
        exact h.front.length_le
  | rollback place =>
    rw [hact] at heffect
    obtain ⟨n, hn, heq⟩ := Option.map_eq_some_iff.mp heffect
    obtain ⟨hstaged, htaken⟩ := Prod.mk.inj heq
    refine ⟨?_, htaken ▸ h.own, htaken ▸ h.later⟩
    rw [← hstaged]
    exact List.prefix_take_iff.mpr ⟨h.front, h.later (hx place hact) hn⟩

theorem Holds.run (h : Holds k buffer j) (hsteps : ∀ x ∈ steps, ∀ k', x.2 = .rollback k' → k ≤ k')
    (hrun : Journal.run steps j = some j') : Holds k buffer j' := by
  induction steps generalizing j with
  | nil =>
    cases hrun
    exact h
  | cons x steps ih =>
    obtain ⟨hx, hmore⟩ := List.forall_mem_cons.mp hsteps
    rw [run_cons] at hrun
    obtain ⟨j₁, hstep, hrun⟩ := Option.bind_eq_some_iff.mp hrun
    exact ih (h.step hx hstep) hmore hrun

/-- So rolling back gives the buffer of the savepoint. -/
theorem Holds.staged_of_rollback (h : Holds k buffer j) {i : Int}
    (hstep : j.step (i, .rollback k) = some j') : j'.contexts.staged = buffer := by
  obtain ⟨n, hn, heq⟩ := Option.map_eq_some_iff.mp (effect_of_step hstep)
  obtain rfl := Option.some.inj (hn.symm.trans h.own)
  rw [← (Prod.mk.inj heq).1]
  exact (List.prefix_iff_eq_take.mp h.front).symm

end Journal

/-! ## Rolling back -/

/-- In steps with nested savepoints, a rollback leaves all contexts with the buffer that was there
when its savepoint was taken, and so does every further rollback to it.  Which contexts did what
does not matter. -/
theorem rollback_restores {c : Contexts π ι} {steps : List (Step π ι)} {j : Journal π ι}
    (hnested : WellNested steps) (hrun : Journal.run steps { contexts := c } = some j) :
    (∀ earlier i k later, steps = earlier ++ (i, .rollback k) :: later →
      ∃ before i₀ between, earlier = before ++ (i₀, .savepoint) :: between ∧
        savepoints before = k ∧
        ∃ taken restored, Journal.run before { contexts := c } = some taken ∧
          Journal.run (earlier ++ [(i, .rollback k)]) { contexts := c } = some restored ∧
          restored.contexts.Shows taken.contexts.staged) ∧
    ∀ (c' : Contexts π ι) (steps' : List (Step π ι)) (j' : Journal π ι),
      c'.staged = c.staged → steps'.map Prod.snd = steps.map Prod.snd →
      Journal.run steps' { contexts := c' } = some j' →
      j'.contexts.staged = j.contexts.staged := by
  refine ⟨fun earlier i k later hsteps ↦ ?_, fun c' steps' j' hstaged hacts hrun' ↦
    (Journal.run_congr hrun hrun' hacts hstaged rfl).1⟩
  subst hsteps
  rw [Journal.run_append] at hrun
  obtain ⟨j₁, hearlier, hrun⟩ := Option.bind_eq_some_iff.mp hrun
  rw [Journal.run_cons] at hrun
  obtain ⟨restored, hrollback, -⟩ := Option.bind_eq_some_iff.mp hrun
  -- what is rolled back to was taken before
  have hk : k < savepoints earlier := by
    obtain ⟨n, hn, -⟩ := Option.map_eq_some_iff.mp (Journal.effect_of_step hrollback)
    have hlength := Journal.length_taken_of_run hearlier
    rw [List.length_nil, Nat.zero_add] at hlength
    exact hlength ▸ (List.getElem?_eq_some_iff.mp hn).1
  obtain ⟨before, i₀, between, rfl, hbefore⟩ := exists_savepoint hk
  have hwithin := hnested before i₀ between i k later (by simp) hbefore
  refine ⟨before, i₀, between, rfl, hbefore, ?_⟩
  have hwhole := hearlier
  rw [Journal.run_append] at hearlier
  obtain ⟨taken, htaken, hearlier⟩ := Option.bind_eq_some_iff.mp hearlier
  rw [Journal.run_cons] at hearlier
  obtain ⟨j₀, hsavepoint, hbetween⟩ := Option.bind_eq_some_iff.mp hearlier
  have hlength := Journal.length_taken_of_run htaken
  rw [List.length_nil, Nat.zero_add, hbefore] at hlength
  have hholds := (Journal.holds_of_savepoint hsavepoint).run (by rwa [hlength]) hbetween
  rw [hlength] at hholds
  refine ⟨taken, restored, htaken, ?_, ?_⟩
  · rw [Journal.run_append, hwhole]
    exact (Journal.run_cons ..).trans (by rw [hrollback]; rfl)
  · rw [← hholds.staged_of_rollback hrollback]
    exact restored.contexts.shows_staged

/-- Two savepoints, one inside the other, in a family of several contexts. -/
def branching : List (Step Nat Nat) :=
  [(0, .stage [1]), (0, .withPage 7), (2, .savepoint), (1, .stage [2, 3]), (0, .withPage 8),
    (-1, .savepoint), (3, .stage [4]), (2, .rollback 1), (5, .stage [5]), (0, .rollback 1),
    (-2, .rollback 0), (4, .stage [6]), (1, .rollback 0)]

/-- Both are rolled back to twice, and the outer one is left with the item from before it. -/
theorem branching_restores :
    let start : Journal Nat Nat := { contexts := { page := 0 } }
    WellNested branching ∧
      (Journal.run branching start).map (·.contexts.staged) = some [1] ∧
      ∃ before i between, branching.take 12 = before ++ (i, .savepoint) :: between ∧
        savepoints before = 0 ∧
        ∃ taken restored, Journal.run before start = some taken ∧
          Journal.run (branching.take 12 ++ [(1, .rollback 0)]) start = some restored ∧
          restored.contexts.Shows taken.contexts.staged := by
  intro start
  have hnested : WellNested branching := by decide
  have hstaged : (Journal.run branching start).map (·.contexts.staged) = some [1] := by
    decide +kernel
  obtain ⟨j, hrun, -⟩ := Option.map_eq_some_iff.mp hstaged
  refine ⟨hnested, hstaged, ?_⟩
  exact (rollback_restores hnested hrun).1 (branching.take 12) 1 0 [] rfl

end PullRelay.Contexts
