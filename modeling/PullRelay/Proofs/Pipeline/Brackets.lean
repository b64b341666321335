import PullRelay.Proofs.Pipeline.Results
import PullRelay.Rehearsal

/-!
# Recorders are brackets

A recorder notes when the work it surrounds is entered and when it returns.  Read as
brackets, the notes of a chain are well nested, and whenever its unit is called exactly the
recorders of the chain are open, in the order in which they stand in it
(`Chain.recorders_bracket`).  So no layer passes another one by, whatever loops in between
enter the layers further in again and again.

The open recorders are found by going through the trace (`Event.openAfter`).  A run that
returns leaves none of its own open, which is why runs may follow one another inside a loop
(`Event.CallsWithin.append`); a run that raises may leave some open, but nothing is called
after it.
-/

namespace PullRelay

variable {σ ι α : Type}

/-! ## Open recorders -/

namespace Event

/-- What an event does to the open recorders, of which the last one entered stands last: it
enters a further one, or leaves that one. -/
def bracket (opened : List String) : Event → Option (List String)
  | .entered name _ => some (opened ++ [name])
  | .left name _ => if opened.getLast? = some name then some opened.dropLast else none
  | _ => some opened

/-- The recorders that are open after events, in the order in which they were entered.
There is no answer if one was left that was not the last one entered. -/
def openAfter (opened : List String) (events : List Event) : Option (List String) :=
  events.foldlM bracket opened

/-- Noted by a recorder. -/
def IsBracket : Event → Prop
  | .entered .. | .left .. => True
  | _ => False

/-- Neither noted by a recorder nor the call of a unit. -/
def IsAside : Event → Prop
  | .entered .. | .left .. | .ran _ => False
  | _ => True

theorem IsAside.not_isBracket {e : Event} (h : e.IsAside) : ¬e.IsBracket := by
  cases e <;> simp_all [IsAside, IsBracket]

theorem bracket_of_not_isBracket {e : Event} (h : ¬e.IsBracket) (opened : List String) :
    e.bracket opened = some opened := by
  cases e <;> first | rfl | exact absurd trivial h

@[simp] theorem openAfter_nil (opened : List String) : openAfter opened [] = some opened := rfl

theorem openAfter_cons (opened : List String) (e : Event) (events : List Event) :
    openAfter opened (e :: events) = (e.bracket opened).bind (openAfter · events) := rfl

theorem openAfter_append (opened : List String) (xs ys : List Event) :
    openAfter opened (xs ++ ys) = (openAfter opened xs).bind (openAfter · ys) := by
  simp only [openAfter, List.foldlM_append, Option.bind_eq_bind]

/-- Where no recorder notes anything, the open recorders stay the same. -/
theorem openAfter_of_forall {events : List Event} (h : ∀ e ∈ events, ¬e.IsBracket)
    (opened : List String) : openAfter opened events = some opened := by
  induction events with
  | nil => rfl
  | cons e events ih =>
    rw [openAfter_cons, bracket_of_not_isBracket (h e List.mem_cons_self), Option.bind_some]
    exact ih fun e he ↦ h e (List.mem_cons_of_mem _ he)

/-- Recorders that are open further out do not matter. -/
theorem openAfter_frame {events : List Event} {opened names : List String}
    (h : openAfter opened events = some names) (below : List String) :
    openAfter (below ++ opened) events = some (below ++ names) := by
  induction events generalizing opened with
  | nil =>
    rw [openAfter_nil, Option.some.injEq] at h
    rw [openAfter_nil, h]
  | cons e events ih =>
    rw [openAfter_cons, Option.bind_eq_some_iff] at h
    obtain ⟨opened', hbracket, hrest⟩ := h
    have hframe : e.bracket (below ++ opened) = some (below ++ opened') := by
      cases e with
      | entered name page =>
        cases hbracket
        simp [bracket]
      | left name status =>
        simp only [bracket, Option.ite_none_right_eq_some, Option.some.injEq] at hbracket ⊢
        obtain ⟨hlast, rfl⟩ := hbracket
        have hne : opened ≠ [] := by
          rintro rfl
          cases hlast
        refine ⟨?_, ?_⟩
        · rw [List.getLast?_append, hlast, Option.some_or]
        · rw [List.dropLast_append_of_ne_nil hne]
      | _ =>
        cases hbracket
        rfl
    rw [openAfter_cons, hframe]
    exact ih hrest

/-- At every call of a unit among the events, these recorders are open. -/
def CallsWithin (names : List String) (events : List Event) : Prop :=
  ∀ before page after, events = before ++ .ran page :: after → openAfter [] before = some names

/-- The recorders that were entered have been left, the last one first. -/
def IsClosed (events : List Event) : Prop := openAfter [] events = some []

theorem IsClosed.append {xs ys : List Event} (hx : IsClosed xs) (hy : IsClosed ys) :
    IsClosed (xs ++ ys) := by
  rw [IsClosed, openAfter_append, hx]
  exact hy

theorem isClosed_of_forall {events : List Event} (h : ∀ e ∈ events, e.IsAside) :
    IsClosed events :=
  openAfter_of_forall (fun e he ↦ (h e he).not_isBracket) []

/-- Events without a call may follow, whatever is open. -/
theorem CallsWithin.append_of_forall {names : List String} {xs ys : List Event}
    (hx : CallsWithin names xs) (hy : ∀ page, .ran page ∉ ys) : CallsWithin names (xs ++ ys) := by
  intro before page after h
  rcases List.append_eq_append_iff.mp h with ⟨before', rfl, hys⟩ | ⟨rest, rfl, hrest⟩
  · exact (hy page (by simp [hys])).elim
  · cases rest with
    | nil =>
      rw [List.nil_append] at hrest
      exact (hy page (by simp [← hrest])).elim
    | cons e rest =>
      obtain ⟨rfl, -⟩ := List.cons.inj hrest
      exact hx before page rest rfl

/-- Stretches may follow one another if nothing is open in between. -/
theorem CallsWithin.append {names : List String} {xs ys : List Event} (hx : CallsWithin names xs)
    (hclosed : IsClosed xs) (hy : CallsWithin names ys) : CallsWithin names (xs ++ ys) := by
  intro before page after h
  rcases List.append_eq_append_iff.mp h with ⟨before', rfl, hys⟩ | ⟨rest, rfl, hrest⟩
  · rw [openAfter_append, hclosed]
    exact hy before' page after hys
  · cases rest with
    | nil =>
      -- The call is the first event of the second stretch.
      rw [List.append_nil] at hclosed
      rw [hclosed]
      exact hy [] page after hrest.symm
    | cons e rest =>
      obtain ⟨rfl, -⟩ := List.cons.inj hrest
      exact hx before page rest rfl

/-- A recorder around a stretch is open at the calls in it, further out than the others. -/
theorem CallsWithin.entered {names : List String} {events : List Event}
    (h : CallsWithin names events) (name : String) (page : Int) :
    CallsWithin (name :: names) (.entered name page :: events) := by
  rintro (_ | ⟨e, before⟩) page' after hsplit
  · cases hsplit
  · obtain ⟨rfl, rfl⟩ := List.cons.inj hsplit
    exact openAfter_frame (h before page' after rfl) [name]

/-- A recorder is left after a stretch that leaves nothing open. -/
theorem IsClosed.recorded {events : List Event} (h : IsClosed events) (name : String)
    (page status : Int) :
    IsClosed (.entered name page :: (events ++ [.left name status])) := by
  have hinside : openAfter [name] events = some [name] := openAfter_frame h [name]
  change openAfter [name] (events ++ [.left name status]) = some []
  rw [openAfter_append, hinside]
  simp [openAfter_cons, bracket]

end Event

/-! ## What is put on record -/

/-- The computation adds to the trace, and what it adds is such as `p` says. -/
def Outside.Adds (p : Event → Prop) (m : Outside σ α) : Prop :=
  ∀ w, ∃ events, (m w).2.trace = w.trace ++ events ∧ ∀ e ∈ events, p e

/-- The action adds to the trace, and what it adds is such as `p` says. -/
def Action.Adds (p : Event → Prop) (m : Action σ ι α) : Prop :=
  ∀ s, ∃ events, (m s).2.world.trace = s.world.trace ++ events ∧ ∀ e ∈ events, p e

theorem Action.adds_pure (p : Event → Prop) (a : α) : (pure a : Action σ ι α).Adds p := by
  intro s
  exact ⟨[], by simp, by simp⟩

/-- The work never notes anything in the name of a recorder, and what its results do when
they are applied is no call of a unit. -/
structure Work.Unrecorded (work : Work σ ι) : Prop where
  adds page : (work page).Adds fun e ↦ ¬e.IsBracket
  returns : work.Returns fun r ↦ r.apply.Adds Event.IsAside

/-- The work with its calls on record. -/
def Work.announced (work : Work σ ι) : Work σ ι := fun page ↦ do
  Action.record (.ran page)
  work page

/-- The runs in which the unit is called inside of these recorders and, if they return, none
of their own is left open. -/
def Runs.bracketed (names : List String) (w : World σ) (ending : Ending (Result σ ι))
    (w' : World σ) : Prop :=
  ∃ events, w'.trace = w.trace ++ events ∧ Event.CallsWithin names events ∧
    ∀ r, ending = .returned r → Event.IsClosed events

/-- All runs of the work are inside of these recorders, and staging its items is no call. -/
structure Work.Brackets (names : List String) (work : Work σ ι) : Prop where
  run {page s ending s'} (h : work page s = (ending, s')) :
    Runs.bracketed names s.world ending s'.world
  returns : work.Returns fun r ↦ r.apply.Adds Event.IsAside

open Event

/-- That staging is no call survives the layers: once the items are staged, nothing is done. -/
theorem Result.survives_adds (p : Event → Prop) :
    Result.Survives fun r : Result σ ι ↦ r.apply.Adds p where
  settled _ := Action.adds_pure p ()
  failing h _ _ := h

/-- A unit is called inside of no recorder. -/
theorem Work.Unrecorded.brackets {unit : Work σ ι} (hu : unit.Unrecorded) :
    unit.announced.Brackets [] where
  run := by
    intro page s ending s' h
    rw [Work.announced, Action.bind_of_returned (Action.record_eq _ s)] at h
    obtain ⟨events, htrace, hevents⟩ := hu.adds page (s.record (.ran page))
    rw [h] at htrace
    have hunrecorded : ∀ e ∈ .ran page :: events, ¬e.IsBracket :=
      List.forall_mem_cons.mpr ⟨id, hevents⟩
    refine ⟨.ran page :: events, ?_, ?_, ?_⟩
    · rw [htrace, State.world_record, World.record, List.append_assoc, List.singleton_append]
    · intro before page' after hsplit
      refine openAfter_of_forall (fun e he ↦ hunrecorded e ?_) []
      rw [hsplit]
      exact List.mem_append_left _ he
    · intro r _
      exact openAfter_of_forall hunrecorded []
  returns := by
    intro page s r s' h
    rw [Work.announced, Action.bind_of_returned (Action.record_eq _ s)] at h
    exact hu.returns h

/-! ## Layers and chains -/

section Layers

variable {names : List String} {inner : Work σ ι}

theorem Retry.Attempts.brackets (hw : inner.Brackets names) {r : Retry} {page : Int}
    {savepoint further : Nat} {errors : List Failure} {s s' : State σ ι}
    {ending : Ending (Result σ ι)}
    (h : r.Attempts inner page savepoint further errors s ending s') :
    Runs.bracketed names s.world ending s'.world := by
  induction h with
  | raised h => exact (hw.run h :)
  | unfinished h => exact (hw.run h :)
  | settled h _ => exact (hw.run h :)
  | @exhausted _ _ _ result _ h _ _ =>
    obtain ⟨events, htrace, hcalls, hclosed⟩ := hw.run h
    exact ⟨events, htrace, hcalls, fun _ _ ↦ hclosed result rfl⟩
  | again h _ _ _ ih =>
    obtain ⟨xs, hxs, hcalls, hclosed⟩ := hw.run h
    obtain ⟨ys, hys, hcalls', hclosed'⟩ := ih
    have haside : ∀ e ∈ [Event.slept r.delay], e.IsAside := by simp [IsAside]
    have hpaused : Event.IsClosed (xs ++ [.slept r.delay]) :=
      (hclosed _ rfl).append (isClosed_of_forall haside)
    refine ⟨xs ++ [.slept r.delay] ++ ys, ?_, ?_, ?_⟩
    · rw [hys, State.world_record, World.record, hxs, State.world_cut, List.append_assoc,
        List.append_assoc, List.append_assoc]
    · exact (hcalls.append_of_forall (by simp)).append hpaused hcalls'
    · intro r hr
      exact hpaused.append (hclosed' r hr)

theorem Retry.brackets_around (hw : inner.Brackets names) (r : Retry) :
    (r.around inner).Brackets names where
  run := by
    intro page s ending s' h
    rw [Retry.around_apply, Retry.attempt_eq_iff] at h
    exact h.brackets hw
  returns := r.returns_around (Result.survives_adds _) hw.returns

/-- A page and what is noted while its items are staged leave nothing open. -/
theorem Work.Brackets.applied (hw : inner.Brackets names) {page : Int} {s s₁ s₂ : State σ ι}
    {r : Result σ ι} {ending : Ending Unit} (h : inner page s = (.returned r, s₁))
    (ha : r.apply s₁ = (ending, s₂)) :
    ∃ events, s₂.world.trace = s.world.trace ++ events ∧ CallsWithin names events ∧
      Event.IsClosed events := by
  obtain ⟨xs, hxs, hcalls, hclosed⟩ := hw.run h
  obtain ⟨ys, hys, haside⟩ := hw.returns h s₁
  rw [ha] at hys
  refine ⟨xs ++ ys, ?_, ?_, ?_⟩
  · rw [hys, hxs, List.append_assoc]
  · exact hcalls.append_of_forall fun page hmem ↦ haside _ hmem
  · exact (hclosed r rfl).append (isClosed_of_forall haside)

theorem Pagination.Follows.brackets (hw : inner.Brackets names) {p : Pagination}
    {atBound : Result σ ι → Action σ ι (Result σ ι)} (hb : p.Stops atBound) {further : Nat}
    {page : Int} {s s' : State σ ι} {ending : Ending (Result σ ι)}
    (h : Follows inner atBound further page s ending s') :
    Runs.bracketed names s.world ending s'.world := by
  induction h with
  | raised h => exact hw.run h
  | unfinished h => exact hw.run h
  | applyRaised h ha | applyUnfinished h ha | settled h ha _ =>
    obtain ⟨events, htrace, hcalls, hclosed⟩ := hw.applied h ha
    exact ⟨events, htrace, hcalls, fun _ _ ↦ hclosed⟩
  | bound h ha _ _ hbound =>
    obtain ⟨events, htrace, hcalls, hclosed⟩ := hw.applied h ha
    obtain ⟨rfl, -⟩ := hb.eq hbound
    exact ⟨events, htrace, hcalls, fun _ _ ↦ hclosed⟩
  | more h ha _ _ _ ih =>
    obtain ⟨xs, hxs, hcalls, hclosed⟩ := hw.applied h ha
    obtain ⟨ys, hys, hcalls', hclosed'⟩ := ih
    refine ⟨xs ++ ys, ?_, hcalls.append hclosed hcalls', ?_⟩
    · rw [hys, hxs, List.append_assoc]
    · intro r hr
      exact hclosed.append (hclosed' r hr)

theorem Pagination.brackets_around (hw : inner.Brackets names) (fuel : Nat) (p : Pagination) :
    (p.around fuel inner).Brackets names where
  run := by
    intro page s ending s' h
    obtain ⟨atBound, further, hb, haround⟩ := p.exists_around_eq fuel inner
    rw [haround, Pagination.follow_eq_iff] at h
    exact h.brackets hw hb
  returns := p.returns_around (Result.survives_adds _) hw.returns fuel

/-- A check of the quota adds what its probe adds, and notices. -/
theorem QuotaWatch.check_adds {p : Event → Prop} {q : QuotaWatch σ} (hq : q.fetch.Adds p)
    (hnotice : ∀ notice, p (.logged notice)) : q.check.Adds p := by
  intro w
  obtain ⟨events, htrace, hevents⟩ := hq w
  have hlogged (notice : Log.Notice) : ∀ e ∈ events ++ [.logged notice], p e := by
    intro e he
    rcases List.mem_append.mp he with he | he
    · exact hevents e he
    · rw [List.mem_singleton.mp he]
      exact hnotice notice
  unfold check
  rcases hf : q.fetch w with ⟨failure | snapshot, w'⟩
  all_goals
    rw [hf] at htrace
    dsimp only at htrace ⊢
    split
  · exact ⟨_, by rw [World.record, htrace, List.append_assoc], hlogged _⟩
  · exact ⟨events, htrace, hevents⟩
  · exact ⟨_, by rw [World.record, htrace, List.append_assoc], hlogged _⟩
  · exact ⟨events, htrace, hevents⟩

theorem QuotaWatch.brackets_around (hw : inner.Brackets names) {q : QuotaWatch σ}
    (hq : q.fetch.Adds IsAside) : (q.around inner).Brackets names where
  run := by
    intro page s ending s' h
    rcases q.around_cases h with ⟨hi, rfl⟩ | ⟨ending₁, s₁, answer, w', hi, -, hc, rfl, rfl⟩
    · exact hw.run hi
    · obtain ⟨xs, hxs, hcalls, hclosed⟩ := hw.run hi
      obtain ⟨ys, hys, haside⟩ := check_adds hq (fun _ ↦ trivial) s₁.world
      rw [hc] at hys
      refine ⟨xs ++ ys, ?_, hcalls.append_of_forall fun page hmem ↦ haside _ hmem, ?_⟩
      · rw [hys, hxs, List.append_assoc]
      · intro r hr
        cases answer with
        | ok _ => exact (hclosed r hr).append (isClosed_of_forall haside)
        | error f => cases hr
  returns := q.returns_around hw.returns

theorem Layer.brackets_recordAround (hw : inner.Brackets names) (name : String) :
    (Layer.recordAround name inner).Brackets (name :: names) where
  run := by
    intro page s ending s' h
    rw [Layer.recordAround, Action.bind_of_returned (Action.record_eq _ s)] at h
    have hentered {events : List Event} {w : World σ}
        (htrace : w.trace = (s.record (.entered name page)).world.trace ++ events) :
        w.trace = s.world.trace ++ .entered name page :: events := by
      rw [htrace, State.world_record, World.record, List.append_assoc, List.singleton_append]
    rcases hi : inner page (s.record (.entered name page)) with ⟨r | f | _, s₁⟩
    · rw [Action.bind_of_returned hi, Action.bind_of_returned (Action.record_eq _ s₁)] at h
      obtain ⟨rfl, rfl⟩ := Prod.mk.inj h
      obtain ⟨events, htrace, hcalls, hclosed⟩ := hw.run hi
      refine ⟨.entered name page :: (events ++ [.left name r.status]), ?_, ?_, ?_⟩
      · rw [State.world_record, World.record, hentered htrace, List.append_assoc, List.cons_append]
      · exact (hcalls.entered name page).append_of_forall (by simp)
      · intro _ _
        exact (hclosed r rfl).recorded name page _
    · rw [Action.bind_of_raised hi] at h
      obtain ⟨rfl, rfl⟩ := Prod.mk.inj h
      obtain ⟨events, htrace, hcalls, -⟩ := hw.run hi
      exact ⟨_, hentered htrace, hcalls.entered name page, by simp⟩
    · rw [Action.bind_of_unfinished hi] at h
      obtain ⟨rfl, rfl⟩ := Prod.mk.inj h
      obtain ⟨events, htrace, hcalls, -⟩ := hw.run hi
      exact ⟨_, hentered htrace, hcalls.entered name page, by simp⟩
  returns := Layer.returns_recordAround hw.returns name

end Layers

/-- The name of a recorder. -/
def Layer.recorder? : Layer σ → Option String
  | .recorder name => some name
  | _ => none

namespace Chain

/-- The recorders of a chain, outermost first. -/
def recorders (chain : Chain σ) : List String := chain.filterMap Layer.recorder?

theorem brackets_around {chain : Chain σ}
    (hq : ∀ q, Layer.quota q ∈ chain → q.fetch.Adds IsAside) {unit : Work σ ι}
    (hu : unit.Brackets []) (fuel : Nat) : (chain.around fuel unit).Brackets chain.recorders := by
  induction chain with
  | nil => exact hu
  | cons layer chain ih =>
    have hinner := ih fun q hmem ↦ hq q (List.mem_cons_of_mem _ hmem)
    rw [around_cons]
    cases layer with
    | quota q => exact QuotaWatch.brackets_around hinner (hq q List.mem_cons_self)
    | retry r => exact Retry.brackets_around hinner r
    | pagination p => exact Pagination.brackets_around hinner fuel p
    | recorder name => exact Layer.brackets_recordAround hinner name

/-- Whenever the unit of a chain is called, exactly the recorders of the chain are open, in
the order in which they stand in it, and a run that returns has left them all, the last
one entered first.  Events before the run do not count: recorders may be open around it. -/
theorem recorders_bracket {chain : Chain σ}
    (hq : ∀ q, Layer.quota q ∈ chain → q.fetch.Adds IsAside) {unit : Work σ ι}
    (hu : unit.Unrecorded) (fuel : Nat) (page : Int) (s : State σ ι) :
    ∃ events, (chain.around fuel unit.announced page s).2.world.trace = s.world.trace ++ events ∧
      (∀ before page after, events = before ++ .ran page :: after →
        openAfter [] before = some chain.recorders) ∧
      (∀ r, (chain.around fuel unit.announced page s).1 = .returned r →
        openAfter [] events = some []) := by
  exact (brackets_around hq hu.brackets fuel).run rfl

end Chain

namespace Rehearsal

/-- A scripted quota notes that it was asked. -/
theorem probe_adds (index : Nat) (script : List Probe) : (probe index script).Adds IsAside := by
  intro w
  refine ⟨[.probed (countOf index w.machine.probes + 1)], ?_, by simp [IsAside]⟩
  unfold probe
  dsimp only
  split <;> rfl

/-- A scripted unit notes its calls and its pages, and no recorders. -/
theorem Script.unrecorded_unit (script : Script) : script.unit.Unrecorded where
  adds page := by
    intro s
    refine ⟨[.ran page], ?_, by simp [IsBracket]⟩
    unfold unit
    dsimp only
    split <;> rfl
  returns := by
    intro page s r s' h
    unfold unit at h
    dsimp only at h
    split at h
    all_goals
      obtain ⟨hr, -⟩ := Prod.mk.inj h
      cases hr
    · exact Action.adds_pure _ _
    · exact Action.adds_pure _ _
    · intro s
      exact ⟨[.applied page], rfl, by simp [IsAside]⟩

end Rehearsal

namespace Chain

/-- Recorders outside of a retry, between it and the pages, and inside of the pages. -/
def recorded : Chain Rehearsal.Machine :=
  [.recorder "call", .retry (.ofAttempts 2 .nan Failure.isRetryable), .recorder "attempt",
    .quota ⟨Rehearsal.probe 0 [.raises (.probe "down")], 100⟩, .pagination (.atMost 2),
    .recorder "page"]

/-- Two pages, of which the second one is lost every time. -/
def halfLost : Work Rehearsal.Machine Value :=
  (Rehearsal.Script.pages [[.yields 200 (some 2) none [.null]],
    [.yields 0 none (some (.transport "lost")) []]]).unit

/-- Its four calls are all inside of the three recorders, though the inner ones are left
and entered again in between. -/
theorem recorded_bracket :
    (∀ q, Layer.quota q ∈ recorded → q.fetch.Adds IsAside) ∧ halfLost.Unrecorded ∧
    (recorded.around 0 halfLost noPage { world := { machine := {} } }).2.world.machine.calls = 4 ∧
    ∃ events, (recorded.around 0 halfLost.announced noPage
        { world := { machine := {} } }).2.world.trace = [] ++ events ∧
      (∀ before page after, events = before ++ .ran page :: after →
        openAfter [] before = some ["call", "attempt", "page"]) ∧
      (∀ r, (recorded.around 0 halfLost.announced noPage
          { world := { machine := {} } }).1 = .returned r →
        openAfter [] events = some []) := by
  have hq (q) (hmem : Layer.quota q ∈ recorded) : q.fetch.Adds IsAside := by
    simp only [recorded, List.mem_cons, Layer.quota.injEq, reduceCtorEq, List.not_mem_nil,
      or_false, false_or] at hmem
    subst hmem
    exact Rehearsal.probe_adds 0 _
  have hu : halfLost.Unrecorded := Rehearsal.Script.unrecorded_unit _
  refine ⟨hq, hu, by decide +kernel, ?_⟩
  exact recorders_bracket hq hu 0 noPage { world := { machine := {} } }

end Chain

end PullRelay
