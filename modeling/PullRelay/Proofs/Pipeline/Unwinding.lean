import PullRelay.Proofs.Client.Calls
import PullRelay.Rehearsal

/-!
# Raised failures unwind

A failure that is raised is no failure of a result: no layer looks at it.  What a run of a chain
does is told by a list of steps (`Steps`), each of them a change of state that one of the layers
or the work inside of them makes.  A step that raises something is the last one but for the
probes of the watches around it, which leave the buffer alone, and what it raises is what the run
raises (`Chain.run_unwinds`).  This needs that the watches are contained: a probe may fail as the
pipeline does, and in no other way.

The same list tells what a watch in the middle of a chain does.  Seen from the layers outside of
it, the watch is the work that they surround, and each of its runs is one run of what is inside
and then one probe (`QuotaWatch.Passes`); the outer layers go on from the state that the probe
leaves behind.
-/

namespace PullRelay

variable {σ ι : Type}

/-! ## Steps -/

/-- A step of a run of layers around work. -/
inductive Step (σ ι : Type) where
  /-- The work is called for a page, and ends like this. -/
  | called (page : Int) (ending : Ending (Result σ ι))
  /-- A result is applied, which ends like this. -/
  | applied (result : Result σ ι) (ending : Ending Unit)
  /-- A retry cuts the buffer. -/
  | cut (savepoint : Nat)
  /-- A retry pauses, or a recorder takes a note. -/
  | recorded (event : Event)
  /-- A watch asks for the quota. -/
  | probed (watch : QuotaWatch σ)

/-- How calls of work may go: the page, the state before, the ending, and the state after. -/
abbrev Calls (σ ι : Type) := Int → State σ ι → Ending (Result σ ι) → State σ ι → Prop

/-- The calls of work. -/
def Work.calls (work : Work σ ι) : Calls σ ι := fun page s ending s' ↦
  work page s = (ending, s')

namespace Step

/-- What a step does to the state. -/
def Takes (calls : Calls σ ι) : Step σ ι → State σ ι → State σ ι → Prop
  | called page ending, s, s' => calls page s ending s'
  | applied result ending, s, s' => result.apply s = (ending, s')
  | cut savepoint, s, s' => s' = s.cut savepoint
  | recorded event, s, s' => s' = s.record event
  | probed watch, s, s' => s' = { s with world := (watch.check s.world).2 }

/-- What is raised in a step. -/
def raised? : Step σ ι → Option Failure
  | called _ (.raised f) | applied _ (.raised f) => some f
  | _ => none

end Step

/-- The steps lead from a state to another one, one after the other. -/
inductive Steps (calls : Calls σ ι) : State σ ι → List (Step σ ι) → State σ ι → Prop
  | nil {s} : Steps calls s [] s
  | cons {s t s' x steps} (h : x.Takes calls s t) (rest : Steps calls t steps s') :
      Steps calls s (x :: steps) s'

namespace Steps

variable {calls calls' : Calls σ ι} {s t s' : State σ ι} {x : Step σ ι} {xs ys : List (Step σ ι)}

theorem single (h : x.Takes calls s s') : Steps calls s [x] s' := .cons h .nil

theorem append (h : Steps calls s xs t) (h' : Steps calls t ys s') :
    Steps calls s (xs ++ ys) s' := by
  induction h with
  | nil => exact h'
  | cons hstep _ ih => exact .cons hstep (ih h')

/-- Steps may be cut in two. -/
theorem append_iff :
    Steps calls s (xs ++ ys) s' ↔ ∃ t, Steps calls s xs t ∧ Steps calls t ys s' := by
  refine ⟨fun h ↦ ?_, fun ⟨t, h, h'⟩ ↦ h.append h'⟩
  induction xs generalizing s with
  | nil => exact ⟨s, .nil, h⟩
  | cons x xs ih =>
    cases h with
    | cons hstep rest =>
      obtain ⟨t, hxs, hys⟩ := ih rest
      exact ⟨t, .cons hstep hxs, hys⟩

/-- Calls may be told in another way. -/
theorem mono (h : Steps calls s xs s')
    (hcalls : ∀ {page s ending s'}, calls page s ending s' → calls' page s ending s') :
    Steps calls' s xs s' := by
  induction h with
  | nil => exact .nil
  | @cons _ _ _ x _ hstep _ ih =>
    refine .cons ?_ ih
    cases x with
    | called => exact hcalls hstep
    | _ => exact hstep

/-- Probes leave the buffer alone. -/
theorem staged_of_probed (h : Steps calls s xs s') (hxs : ∀ x ∈ xs, ∃ q, x = .probed q) :
    s'.staged = s.staged := by
  induction h with
  | nil => rfl
  | cons hstep _ ih =>
    obtain ⟨⟨q, rfl⟩, hrest⟩ := List.forall_mem_cons.mp hxs
    rw [ih hrest, hstep]

end Steps

/-! ## Runs told by their steps -/

/-- Nothing is raised in the steps. -/
def Step.Calm (xs : List (Step σ ι)) : Prop := ∀ x ∈ xs, x.raised? = none

/-- The steps lead from one state to another.  What is applied in them has been returned by a
call among them, and only these watches probe. -/
structure Steps.Tell (calls : Calls σ ι) (watches : QuotaWatch σ → Prop) (s : State σ ι)
    (xs : List (Step σ ι)) (s' : State σ ι) : Prop where
  lead : Steps calls s xs s'
  returned : ∀ result ending, .applied result ending ∈ xs →
    ∃ page, .called page (.returned result) ∈ xs
  probed : ∀ q, .probed q ∈ xs → watches q

/-- Applying the result does nothing, or what applying a result does that a call among the steps
has returned. -/
def Result.IsOwed (r : Result σ ι) (xs : List (Step σ ι)) : Prop :=
  r.apply = pure () ∨ ∃ page result, .called page (.returned result) ∈ xs ∧ r.apply = result.apply

/-- How a run ends after steps in which these watches probe: what is raised in a step is what the
run raises, and nothing but probes comes after it. -/
def Ending.Concludes (watches : QuotaWatch σ → Prop) (xs : List (Step σ ι)) :
    Ending (Result σ ι) → Prop
  | .returned r => Step.Calm xs ∧ r.IsOwed xs
  | .raised f => ∃ before x after, xs = before ++ x :: after ∧ Step.Calm before ∧
      x.raised? = some f ∧ ∀ y ∈ after, ∃ q, watches q ∧ y = .probed q
  | .unfinished => Step.Calm xs

/-- All runs of the work are told by steps that conclude them. -/
def Work.IsTold (calls : Calls σ ι) (watches : QuotaWatch σ → Prop) (work : Work σ ι) : Prop :=
  ∀ ⦃page s ending s'⦄, work page s = (ending, s') →
    ∃ xs, Steps.Tell calls watches s xs s' ∧ ending.Concludes watches xs

section Told

variable {calls calls' : Calls σ ι} {watches : QuotaWatch σ → Prop} {s t s' : State σ ι}
  {xs ys : List (Step σ ι)} {ending : Ending (Result σ ι)}

namespace Step

theorem Calm.append (hx : Calm xs) (hy : Calm ys) : Calm (xs ++ ys) := by
  intro x hmem
  exact (List.mem_append.mp hmem).elim (hx x) (hy x)

theorem calm_cut (n : Nat) : Calm [(.cut n : Step σ ι)] := by simp [Calm, raised?]

theorem calm_recorded (e : Event) : Calm [(.recorded e : Step σ ι)] := by simp [Calm, raised?]

theorem calm_probed (q : QuotaWatch σ) : Calm [(.probed q : Step σ ι)] := by simp [Calm, raised?]

end Step

namespace Steps.Tell

theorem append (h : Tell calls watches s xs t) (h' : Tell calls watches t ys s') :
    Tell calls watches s (xs ++ ys) s' where
  lead := h.lead.append h'.lead
  returned result ending hmem := by
    rcases List.mem_append.mp hmem with hmem | hmem
    · obtain ⟨page, hcalled⟩ := h.returned result ending hmem
      exact ⟨page, List.mem_append_left _ hcalled⟩
    · obtain ⟨page, hcalled⟩ := h'.returned result ending hmem
      exact ⟨page, List.mem_append_right _ hcalled⟩
  probed q hmem := (List.mem_append.mp hmem).elim (h.probed q) (h'.probed q)

theorem cut (s : State σ ι) (n : Nat) : Tell calls watches s [.cut n] (s.cut n) :=
  ⟨.single rfl, by simp, by simp⟩

theorem recorded (s : State σ ι) (e : Event) : Tell calls watches s [.recorded e] (s.record e) :=
  ⟨.single rfl, by simp, by simp⟩

theorem probe {q : QuotaWatch σ} (hq : watches q) (s : State σ ι) :
    Tell calls watches s [.probed q] { s with world := (q.check s.world).2 } :=
  ⟨.single rfl, by simp, by simp [hq]⟩

theorem mono (h : Tell calls watches s xs s')
    (hcalls : ∀ {page s ending s'}, calls page s ending s' → calls' page s ending s') :
    Tell calls' watches s xs s' :=
  ⟨h.lead.mono hcalls, h.returned, h.probed⟩

/-- A call that goes this way. -/
theorem call {page : Int} (h : calls page s ending s') :
    Tell calls watches s [.called page ending] s' :=
  ⟨.single h, by simp, by simp⟩

end Steps.Tell

theorem Result.IsOwed.append_left {r : Result σ ι} (h : r.IsOwed ys) (xs : List (Step σ ι)) :
    r.IsOwed (xs ++ ys) :=
  h.imp_right fun ⟨page, result, hmem, happly⟩ ↦
    ⟨page, result, List.mem_append_right _ hmem, happly⟩

theorem Result.IsOwed.append_right {r : Result σ ι} (h : r.IsOwed xs) (ys : List (Step σ ι)) :
    r.IsOwed (xs ++ ys) :=
  h.imp_right fun ⟨page, result, hmem, happly⟩ ↦
    ⟨page, result, List.mem_append_left _ hmem, happly⟩

theorem Result.isOwed_settled (r : Result σ ι) (xs : List (Step σ ι)) : r.settled.IsOwed xs :=
  .inl rfl

/-- What concludes a run concludes it after more steps as well. -/
theorem Ending.Concludes.prepend (hcalm : Step.Calm xs) (h : ending.Concludes watches ys) :
    ending.Concludes watches (xs ++ ys) := by
  cases ending with
  | returned r => exact ⟨hcalm.append h.1, h.2.append_left xs⟩
  | raised f =>
    obtain ⟨before, x, after, rfl, hbefore, hx, hafter⟩ := h
    refine ⟨xs ++ before, x, after, ?_, hcalm.append hbefore, hx, hafter⟩
    rw [List.append_assoc]
  | unfinished => exact hcalm.append h

/-- A step that raises something is followed by probes only, and the run raises the same. -/
theorem Ending.Concludes.of_raised? (h : ending.Concludes watches xs)
    {before after : List (Step σ ι)} {x : Step σ ι} {f : Failure}
    (hxs : xs = before ++ x :: after) (hx : x.raised? = some f) :
    ending = .raised f ∧ ∀ y ∈ after, ∃ q, watches q ∧ y = .probed q := by
  have hmem : x ∈ xs := by simp [hxs]
  cases ending with
  | returned r => cases (h.1 x hmem).symm.trans hx
  | unfinished => cases (h x hmem).symm.trans hx
  | raised g =>
    obtain ⟨before', x', after', rfl, hcalm, hx', hafter⟩ := h
    -- Only one step raises: none before `x'` does, and probes do not.
    rcases List.append_eq_append_iff.mp hxs with
      ⟨_ | ⟨y, ys⟩, rfl, hrest⟩ | ⟨_ | ⟨y, ys⟩, rfl, hrest⟩
    · obtain ⟨rfl, rfl⟩ := List.cons.inj hrest
      exact ⟨congrArg _ (Option.some.inj (hx'.symm.trans hx)), hafter⟩
    · obtain ⟨-, rfl⟩ := List.cons.inj hrest
      obtain ⟨q, -, rfl⟩ := hafter x (by simp)
      cases hx
    · obtain ⟨rfl, rfl⟩ := List.cons.inj hrest
      exact ⟨congrArg _ (Option.some.inj (hx'.symm.trans hx)), hafter⟩
    · obtain ⟨rfl, -⟩ := List.cons.inj hrest
      cases (hcalm x (by simp)).symm.trans hx

/-- Applying a result that is owed is at most one more step, and raises what that raises. -/
theorem Steps.Tell.exists_applied (h : Tell calls watches s xs t) (hcalm : Step.Calm xs)
    {r : Result σ ι} (howed : r.IsOwed xs) {outcome : Ending Unit}
    (ha : r.apply t = (outcome, s')) :
    ∃ ys, Tell calls watches s ys s' ∧ (outcome.map fun _ ↦ r.settled).Concludes watches ys := by
  rcases howed with hpure | ⟨page, result, hmem, happly⟩
  · rw [hpure] at ha
    obtain ⟨rfl, rfl⟩ := Prod.mk.inj ha
    exact ⟨xs, h, hcalm, r.isOwed_settled xs⟩
  · rw [happly] at ha
    have hstep : Steps calls t [.applied result outcome] s' := .single ha
    refine ⟨xs ++ [.applied result outcome], ⟨h.lead.append hstep, ?_, ?_⟩, ?_⟩
    · intro result' outcome' hmem'
      rcases List.mem_append.mp hmem' with hmem' | hmem'
      · obtain ⟨page', hcalled⟩ := h.returned result' outcome' hmem'
        exact ⟨page', List.mem_append_left _ hcalled⟩
      · cases List.mem_singleton.mp hmem'
        exact ⟨page, List.mem_append_left _ hmem⟩
    · intro q hq
      exact h.probed q (by simpa using hq)
    · cases outcome with
      | returned _ =>
        exact ⟨hcalm.append (by simp [Step.Calm, Step.raised?]), r.isOwed_settled _⟩
      | raised f => exact ⟨xs, _, [], rfl, hcalm, rfl, by simp⟩
      | unfinished => exact hcalm.append (by simp [Step.Calm, Step.raised?])

end Told

/-! ## Layers and chains -/

/-- A watch whose probes fail as the pipeline does, if they fail. -/
def QuotaWatch.IsContained (q : QuotaWatch σ) : Prop :=
  ∀ w f, (q.fetch w).1 = .error f → f.isPipeline = true

section Layers

variable {calls : Calls σ ι} {watches : QuotaWatch σ → Prop} {inner : Work σ ι}

theorem Retry.Attempts.told (hw : inner.IsTold calls watches) {r : Retry} {page : Int}
    {savepoint further : Nat} {errors : List Failure} {s s' : State σ ι}
    {ending : Ending (Result σ ι)}
    (h : r.Attempts inner page savepoint further errors s ending s') :
    ∃ xs, Steps.Tell calls watches s xs s' ∧ ending.Concludes watches xs := by
  have hcut {s s' : State σ ι} {ending : Ending (Result σ ι)}
      (h : inner page (s.cut savepoint) = (ending, s')) :
      ∃ xs, Steps.Tell calls watches s xs s' ∧ ending.Concludes watches xs := by
    obtain ⟨xs, hxs, hend⟩ := hw h
    exact ⟨_, (Steps.Tell.cut s savepoint).append hxs, hend.prepend (Step.calm_cut savepoint)⟩
  induction h with
  | raised h | unfinished h | settled h _ => exact hcut h
  | exhausted h _ _ =>
    obtain ⟨xs, hxs, hcalm, howed⟩ := hcut h
    exact ⟨_, hxs.append (.cut _ savepoint), hcalm.append (Step.calm_cut savepoint),
      howed.append_right _⟩
  | again h _ _ _ ih =>
    obtain ⟨xs, hxs, hcalm, -⟩ := hcut h
    obtain ⟨ys, hys, hend⟩ := ih
    have hpaused := hxs.append (.recorded _ (.slept r.delay))
    exact ⟨_, hpaused.append hys, hend.prepend (hcalm.append (Step.calm_recorded _))⟩

theorem Retry.isTold_around (hw : inner.IsTold calls watches) (r : Retry) :
    (r.around inner).IsTold calls watches := by
  intro page s ending s' h
  rw [around_apply, attempt_eq_iff] at h
  exact h.told hw

theorem Pagination.Follows.told (hw : inner.IsTold calls watches) {p : Pagination}
    {atBound : Result σ ι → Action σ ι (Result σ ι)} (hb : p.Stops atBound) {further : Nat}
    {page : Int} {s s' : State σ ι} {ending : Ending (Result σ ι)}
    (h : Follows inner atBound further page s ending s') :
    ∃ xs, Steps.Tell calls watches s xs s' ∧ ending.Concludes watches xs := by
  have happlied {page : Int} {s s₁ s₂ : State σ ι} {r : Result σ ι} {outcome : Ending Unit}
      (h : inner page s = (.returned r, s₁)) (ha : r.apply s₁ = (outcome, s₂)) :
      ∃ xs, Steps.Tell calls watches s xs s₂ ∧
        (outcome.map fun _ ↦ r.settled).Concludes watches xs := by
    obtain ⟨xs, hxs, hcalm, howed⟩ := hw h
    exact hxs.exists_applied hcalm howed ha
  induction h with
  | raised h | unfinished h => exact hw h
  | applyRaised h ha | applyUnfinished h ha | settled h ha _ => exact happlied h ha
  | @bound _ _ _ _ _ result _ _ h ha _ _ hbound =>
    obtain ⟨xs, hxs, hcalm, -⟩ := happlied h ha
    obtain ⟨rfl, rfl | rfl⟩ := hb.eq hbound
    · exact ⟨xs, hxs, hcalm, result.isOwed_settled xs⟩
    · exact ⟨xs, hxs, hcalm⟩
  | more h ha _ _ _ ih =>
    obtain ⟨xs, hxs, hcalm, -⟩ := happlied h ha
    obtain ⟨ys, hys, hend⟩ := ih
    exact ⟨_, hxs.append hys, hend.prepend hcalm⟩

theorem Pagination.isTold_around (hw : inner.IsTold calls watches) (fuel : Nat)
    (p : Pagination) : (p.around fuel inner).IsTold calls watches := by
  intro page s ending s' h
  obtain ⟨atBound, further, hb, haround⟩ := p.exists_around_eq fuel inner
  rw [haround, follow_eq_iff] at h
  exact h.told hw hb

/-- A contained watch does not raise anything itself. -/
theorem QuotaWatch.IsContained.exists_check {q : QuotaWatch σ} (hq : q.IsContained)
    (w : World σ) : ∃ snapshot w', q.check w = (.ok snapshot, w') := by
  unfold check
  rcases hfetch : q.fetch w with ⟨f | snapshot, w'⟩
  · have hf : f.isPipeline = true := hq w f (congrArg Prod.fst hfetch)
    exact ⟨none, _, if_pos hf⟩
  · dsimp only
    split
    · exact ⟨some snapshot, _, rfl⟩
    · exact ⟨some snapshot, _, rfl⟩

theorem QuotaWatch.isTold_around (hw : inner.IsTold calls watches) {q : QuotaWatch σ}
    (hq : q.IsContained) (hwatched : watches q) : (q.around inner).IsTold calls watches := by
  intro page s ending s' h
  rcases q.around_cases h with ⟨hi, rfl⟩ | ⟨ending₁, s₁, answer, w', hi, hend, hc, rfl, rfl⟩
  · exact hw hi
  · obtain ⟨xs, hxs, hconcludes⟩ := hw hi
    obtain ⟨snapshot, w, hok⟩ := hq.exists_check s₁.world
    obtain ⟨rfl, rfl⟩ := Prod.mk.inj (hc.symm.trans hok)
    have hprobed := hxs.append (.probe hwatched s₁)
    rw [hok] at hprobed
    refine ⟨_, hprobed, ?_⟩
    cases ending₁ with
    | returned r =>
      exact ⟨hconcludes.1.append (Step.calm_probed q), hconcludes.2.append_right _⟩
    | raised f =>
      obtain ⟨before, x, after, rfl, hbefore, hx, hafter⟩ := hconcludes
      refine ⟨before, x, after ++ [.probed q], by simp, hbefore, hx, ?_⟩
      intro y hy
      rcases List.mem_append.mp hy with hy | hy
      · exact hafter y hy
      · exact ⟨q, hwatched, List.mem_singleton.mp hy⟩
    | unfinished => exact absurd rfl hend

theorem Layer.isTold_recordAround (hw : inner.IsTold calls watches) (name : String) :
    (Layer.recordAround name inner).IsTold calls watches := by
  intro page s ending s' h
  rw [Layer.recordAround, Action.bind_of_returned (Action.record_eq _ s)] at h
  have hentered : Steps.Tell calls watches s [.recorded (.entered name page)]
      (s.record (.entered name page)) := .recorded s _
  rcases hi : inner page (s.record (.entered name page)) with ⟨r | f | _, s₁⟩
  all_goals obtain ⟨xs, hxs, hend⟩ := hw hi
  · rw [Action.bind_of_returned hi, Action.bind_of_returned (Action.record_eq _ s₁)] at h
    obtain ⟨rfl, rfl⟩ := Prod.mk.inj h
    have hleft := hxs.append (.recorded s₁ (.left name r.status))
    refine ⟨_, hentered.append hleft, ?_⟩
    exact Ending.Concludes.prepend (Step.calm_recorded _)
      ⟨hend.1.append (Step.calm_recorded _), hend.2.append_right _⟩
  · rw [Action.bind_of_raised hi] at h
    obtain ⟨rfl, rfl⟩ := Prod.mk.inj h
    exact ⟨_, hentered.append hxs, hend.prepend (Step.calm_recorded _)⟩
  · rw [Action.bind_of_unfinished hi] at h
    obtain ⟨rfl, rfl⟩ := Prod.mk.inj h
    exact ⟨_, hentered.append hxs, hend.prepend (Step.calm_recorded _)⟩

end Layers

/-- Work is told by its own calls. -/
theorem Work.isTold_calls (work : Work σ ι) (watches : QuotaWatch σ → Prop) :
    work.IsTold work.calls watches := by
  intro page s ending s' h
  refine ⟨[.called page ending], .call h, ?_⟩
  cases ending with
  | returned r =>
    exact ⟨by simp [Step.Calm, Step.raised?], .inr ⟨page, r, List.mem_cons_self, rfl⟩⟩
  | raised f => exact ⟨[], _, [], rfl, by simp [Step.Calm], rfl, by simp⟩
  | unfinished => simp [Ending.Concludes, Step.Calm, Step.raised?]

namespace Chain

/-- All runs of a chain of contained watches, retries, paginations and recorders are told by the
calls of the work inside of it and the probes of its watches. -/
theorem isTold_around {chain : Chain σ} {watches : QuotaWatch σ → Prop}
    (hq : ∀ q, Layer.quota q ∈ chain → q.IsContained)
    (hwatches : ∀ q, Layer.quota q ∈ chain → watches q) (fuel : Nat) (work : Work σ ι) :
    (chain.around fuel work).IsTold work.calls watches := by
  induction chain with
  | nil => exact work.isTold_calls watches
  | cons layer chain ih =>
    have hinner := ih (fun q hmem ↦ hq q (List.mem_cons_of_mem _ hmem))
      (fun q hmem ↦ hwatches q (List.mem_cons_of_mem _ hmem))
    rw [around_cons]
    cases layer with
    | quota q =>
      exact QuotaWatch.isTold_around hinner (hq q List.mem_cons_self)
        (hwatches q List.mem_cons_self)
    | retry r => exact Retry.isTold_around hinner r
    | pagination p => exact Pagination.isTold_around hinner fuel p
    | recorder name => exact Layer.isTold_recordAround hinner name

end Chain

/-- A run of a watch as the layers outside of it see it: what is inside runs once, and if that
ends, the quota is asked for once, in the state that the run has left behind.  Notices may be
added to the trace, and the buffer is left alone. -/
inductive QuotaWatch.Passes (q : QuotaWatch σ) (inner : Work σ ι) : Calls σ ι
  | ended {page s ending t outcome w} (h : inner page s = (ending, t)) (hend : ending ≠ .unfinished)
      (hfetch : q.fetch t.world = (outcome, w)) :
      Passes q inner page s ending
        { t with world := { w with trace := w.trace ++ (notices q.threshold outcome).map .logged } }
  /-- What is inside goes on and on. -/
  | unfinished {page s t} (h : inner page s = (.unfinished, t)) :
      Passes q inner page s .unfinished t

/-- A contained watch leaves the ending of what is inside of it as it is. -/
theorem QuotaWatch.passes_of_around {q : QuotaWatch σ} (hq : q.IsContained) {inner : Work σ ι}
    {page : Int} {s s' : State σ ι} {ending : Ending (Result σ ι)}
    (h : q.around inner page s = (ending, s')) : q.Passes inner page s ending s' := by
  rcases q.around_cases h with ⟨hi, rfl⟩ | ⟨ending₁, s₁, answer, w', hi, hend, hc, rfl, rfl⟩
  · exact .unfinished hi
  · obtain ⟨snapshot, w, hok⟩ := hq.exists_check s₁.world
    obtain ⟨rfl, rfl⟩ := Prod.mk.inj (hc.symm.trans hok)
    rcases hfetch : q.fetch s₁.world with ⟨outcome, w₁⟩
    -- Notices are no requests, so that any transport will do.
    have hcheck := check_eq hfetch fun _ m ↦ (.error default, m)
    obtain ⟨-, rfl⟩ := Prod.mk.inj (hc.symm.trans hcheck)
    have hnotices (e) (he : e ∈ (notices q.threshold outcome).map Event.logged) :
        e.request? = none := by
      obtain ⟨notice, -, rfl⟩ := List.mem_map.mp he
      rfl
    rw [World.after, Transport.machineAfter_of_forall _ hnotices]
    exact .ended hi hend hfetch

/-! ## Runs of a chain -/

namespace Chain

/-- What a chain of contained watches does, whatever is inside of it, can be told by a list of
steps.  The run raises something just if a step does, and raises the same.  Only the probes of
watches come after that step: nothing is called, applied, cut or paused for any more, and the
buffer is what the step has left behind.

As this is so for every unit, it is so for a unit that notes its calls in the trace.

Any watch of the chain divides it in two.  The layers outside of the watch go on, step by step,
from one pass through it to the next, and in each pass the layers inside of it run once and the
quota is asked for once after that. -/
theorem run_unwinds {chain : Chain σ} (hq : ∀ q, Layer.quota q ∈ chain → q.IsContained)
    (unit : Work σ ι) (fuel : Nat) (page : Int) (s : State σ ι) :
    let run := chain.around fuel unit page s
    (∃ steps, Steps.Tell unit.calls (Layer.quota · ∈ chain) s steps run.2 ∧
      (∀ f, run.1 = .raised f ↔ ∃ x ∈ steps, x.raised? = some f) ∧
      ∀ before x after f, steps = before ++ x :: after → x.raised? = some f →
        (∀ y ∈ after, ∃ q, Layer.quota q ∈ chain ∧ y = .probed q) ∧
        ∃ t, Steps unit.calls s (before ++ [x]) t ∧ run.2.staged = t.staged) ∧
    ∀ outer q inner, chain = outer ++ .quota q :: inner →
      ∃ steps, Steps.Tell (q.Passes (Chain.around fuel inner unit)) (Layer.quota · ∈ outer) s
        steps run.2 := by
  intro run
  constructor
  · have htold : (chain.around fuel unit).IsTold unit.calls (Layer.quota · ∈ chain) :=
      isTold_around hq (fun _ hmem ↦ hmem) fuel unit
    obtain ⟨steps, htell, hconcludes⟩ := htold (Prod.eta run).symm
    refine ⟨steps, htell, fun f ↦ ⟨fun hrun ↦ ?_, ?_⟩, ?_⟩
    · rw [hrun] at hconcludes
      obtain ⟨before, x, after, rfl, -, hx, -⟩ := hconcludes
      exact ⟨x, by simp, hx⟩
    · rintro ⟨x, hmem, hx⟩
      obtain ⟨before, after, hsteps⟩ := List.append_of_mem hmem
      exact (hconcludes.of_raised? hsteps hx).1
    · rintro before x after f hsteps hx
      obtain ⟨-, hafter⟩ := hconcludes.of_raised? hsteps hx
      have hlead := htell.lead
      rw [hsteps, List.append_cons, Steps.append_iff] at hlead
      obtain ⟨t, hbefore, hprobes⟩ := hlead
      refine ⟨hafter, t, hbefore, hprobes.staged_of_probed fun y hy ↦ ?_⟩
      obtain ⟨q, -, rfl⟩ := hafter y hy
      exact ⟨q, rfl⟩
  · rintro outer q inner rfl
    have hcontained : q.IsContained := hq q (by simp)
    have houter (p) (hmem : Layer.quota p ∈ outer) : p.IsContained :=
      hq p (List.mem_append_left _ hmem)
    have htold := isTold_around houter (fun _ hmem ↦ hmem) fuel
      (q.around (Chain.around fuel inner unit))
    have hrun : Chain.around fuel outer (q.around (Chain.around fuel inner unit)) page s = run :=
      (congrFun (congrFun (around_append fuel outer (.quota q :: inner) unit) page) s).symm
    obtain ⟨steps, htell, -⟩ := htold hrun
    exact ⟨steps, htell.mono (QuotaWatch.passes_of_around hcontained)⟩

/-- A watch around a retry around a watch around pages. -/
def watchedTwice : Chain Rehearsal.Machine :=
  [.quota ⟨Rehearsal.probe 0 [.raises (.probe "down")], 100⟩,
    .retry (.ofAttempts 3 .nan Failure.isRetryable),
    .quota ⟨Rehearsal.probe 1 [.raises (.transport "lost")], 100⟩, .pagination .unbounded]

/-- Loses the second page once, and breaks there when it is tried again. -/
def breaking : Work Rehearsal.Machine Value :=
  (Rehearsal.Script.sequence [.yields 200 (some 2) none [.int 1],
    .yields 0 none (some (.transport "lost")) [.int 2], .yields 200 (some 2) none [.int 3],
    .raises (.foreign .lookup "page")]).unit

/-- The inner watch probes twice and the outer one once; what has been staged in the second
attempt stays. -/
theorem watchedTwice_unwinds :
    (∀ q, Layer.quota q ∈ watchedTwice → q.IsContained) ∧
    let run := watchedTwice.around 5 breaking firstPage { world := { machine := {} } }
    run.1 matches .raised (.foreign .lookup "page") ∧ run.2.staged.length = 1 ∧
    run.2.world.machine.calls = 4 ∧ run.2.world.machine.probes = [(0, 1), (1, 2)] ∧
    (∃ steps, Steps.Tell breaking.calls (Layer.quota · ∈ watchedTwice)
        { world := { machine := {} } } steps run.2 ∧
      (∀ f, run.1 = .raised f ↔ ∃ x ∈ steps, x.raised? = some f) ∧
      ∀ before x after f, steps = before ++ x :: after → x.raised? = some f →
        (∀ y ∈ after, ∃ q, Layer.quota q ∈ watchedTwice ∧ y = .probed q) ∧
        ∃ t, Steps breaking.calls { world := { machine := {} } } (before ++ [x]) t ∧
          run.2.staged = t.staged) ∧
    ∀ outer q inner, watchedTwice = outer ++ .quota q :: inner →
      ∃ steps, Steps.Tell (q.Passes (Chain.around 5 inner breaking)) (Layer.quota · ∈ outer)
        { world := { machine := {} } } steps run.2 := by
  have hprobe (index : Nat) (f : Failure) (hf : f.isPipeline = true) (threshold : Int) :
      QuotaWatch.IsContained ⟨Rehearsal.probe index [.raises f], threshold⟩ := by
    intro w g hg
    have hfetch : (Rehearsal.probe index [.raises f] w).1 = .error f := by
      simp [Rehearsal.probe, Rehearsal.nth?]
    cases hfetch.symm.trans hg
    exact hf
  have hq (q) (hmem : Layer.quota q ∈ watchedTwice) : q.IsContained := by
    simp only [watchedTwice, List.mem_cons, Layer.quota.injEq, reduceCtorEq, List.not_mem_nil,
      or_false, false_or] at hmem
    rcases hmem with rfl | rfl
    · exact hprobe 0 _ rfl 100
    · exact hprobe 1 _ rfl 100
  exact ⟨hq, by decide +kernel, by decide +kernel, by decide +kernel, by decide +kernel,
    run_unwinds hq breaking 5 firstPage { world := { machine := {} } }⟩

end Chain

end PullRelay
