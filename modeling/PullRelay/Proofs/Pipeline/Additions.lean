import PullRelay.Proofs.Client.Standard
import PullRelay.Proofs.Pipeline.Brackets

/-!
# What layers put on record

Work adds to the trace and takes nothing away.  A layer adds little of its own: a retry its
pauses, a watch what its probe does and its notices, a recorder its marks, and a pagination
nothing.  So if everything that a unit of work adds is of some sort, and what the layers of a
chain add is of that sort too, then it is true of all that the chain adds
(`Chain.adds_around`).
-/

namespace PullRelay

variable {σ ι : Type} {p : Event → Prop}

/-- The trace of the later world goes on where that of the earlier one ends, with events that
are such as `p` says. -/
def World.Extends (p : Event → Prop) (w w' : World σ) : Prop :=
  ∃ events, w'.trace = w.trace ++ events ∧ ∀ e ∈ events, p e

namespace World.Extends

variable {w w₁ w' : World σ} {e : Event}

theorem refl (w : World σ) : w.Extends p w := ⟨[], (List.append_nil _).symm, by simp⟩

theorem trans (h : w.Extends p w₁) (h' : w₁.Extends p w') : w.Extends p w' := by
  obtain ⟨events, htrace, hevents⟩ := h
  obtain ⟨later, htrace', hlater⟩ := h'
  refine ⟨events ++ later, by rw [htrace', htrace, List.append_assoc], fun e he ↦ ?_⟩
  exact (List.mem_append.mp he).elim (hevents e) (hlater e)

theorem record (he : p e) : w.Extends p (w.record e) := ⟨[e], rfl, by simpa using he⟩

theorem mono {q : Event → Prop} (h : w.Extends p w') (hq : ∀ e, p e → q e) : w.Extends q w' := by
  obtain ⟨events, htrace, hevents⟩ := h
  exact ⟨events, htrace, fun e he ↦ hq e (hevents e he)⟩

end World.Extends

/-- All that the work adds to the trace is such as `p` says, and so is what its results add when
they are applied. -/
structure Work.Adds (p : Event → Prop) (work : Work σ ι) : Prop where
  run page : (work page).Adds p
  returns : work.Returns fun r ↦ r.apply.Adds p

section Layers

variable {inner : Work σ ι} {page : Int} {s s₁ s' : State σ ι} {ending : Ending (Result σ ι)}

theorem Work.Adds.extends (hw : inner.Adds p) (h : inner page s = (ending, s')) :
    s.world.Extends p s'.world := by
  have hrun := hw.run page s
  rw [h] at hrun
  exact hrun

/-- Applying a result belongs to what the work adds. -/
theorem Work.Adds.applied (hw : inner.Adds p) {r : Result σ ι} {outcome : Ending Unit}
    (h : inner page s = (.returned r, s₁)) (ha : r.apply s₁ = (outcome, s')) :
    s.world.Extends p s'.world := by
  have happlied := hw.returns h s₁
  rw [ha] at happlied
  exact (hw.extends h).trans happlied

theorem Retry.Attempts.extends {r : Retry} (hw : inner.Adds p) (hpause : p (.slept r.delay))
    {savepoint further : Nat} {errors : List Failure}
    (h : r.Attempts inner page savepoint further errors s ending s') :
    s.world.Extends p s'.world := by
  -- An attempt starts from a buffer that is cut, in the same world.
  induction h with
  | raised h => exact (hw.extends h :)
  | unfinished h => exact (hw.extends h :)
  | settled h _ => exact (hw.extends h :)
  | exhausted h _ _ => exact (hw.extends h :)
  | again h _ _ _ ih => exact (hw.extends h :).trans ((World.Extends.record hpause).trans ih)

/-- A retry adds its pauses. -/
theorem Retry.adds_around (hw : inner.Adds p) {r : Retry} (hpause : p (.slept r.delay)) :
    (r.around inner).Adds p where
  run _ _ := (Retry.attempt_eq_iff.mp rfl).extends hw hpause
  returns := r.returns_around (Result.survives_adds p) hw.returns

theorem Pagination.Follows.extends {pages : Pagination}
    {atBound : Result σ ι → Action σ ι (Result σ ι)} (hw : inner.Adds p)
    (hb : pages.Stops atBound) {further : Nat}
    (h : Follows inner atBound further page s ending s') : s.world.Extends p s'.world := by
  induction h with
  | raised h => exact hw.extends h
  | unfinished h => exact hw.extends h
  | applyRaised h ha => exact hw.applied h ha
  | applyUnfinished h ha => exact hw.applied h ha
  | settled h ha _ => exact hw.applied h ha
  | bound h ha _ _ hbound =>
    obtain ⟨rfl, -⟩ := hb.eq hbound
    exact hw.applied h ha
  | more h ha _ _ _ ih => exact (hw.applied h ha).trans ih

/-- A pagination adds nothing. -/
theorem Pagination.adds_around (hw : inner.Adds p) (fuel : Nat) (pages : Pagination) :
    (pages.around fuel inner).Adds p where
  run page s := by
    obtain ⟨atBound, further, hb, haround⟩ := pages.exists_around_eq fuel inner
    rw [haround]
    exact (Pagination.follow_eq_iff.mp rfl).extends hw hb
  returns := pages.returns_around (Result.survives_adds p) hw.returns fuel

/-- A watch adds what its probe adds, and its notices. -/
theorem QuotaWatch.adds_around (hw : inner.Adds p) {q : QuotaWatch σ} (hq : q.fetch.Adds p)
    (hnotice : ∀ notice, p (.logged notice)) : (q.around inner).Adds p where
  run page s := by
    rcases h : q.around inner page s with ⟨ending, s'⟩
    rcases q.around_cases h with ⟨hi, -⟩ | ⟨ending₁, s₁, answer, w', hi, -, hc, rfl, -⟩
    · exact hw.extends hi
    · have hcheck := q.check_adds hq hnotice s₁.world
      rw [hc] at hcheck
      exact (hw.extends hi).trans hcheck
  returns := q.returns_around hw.returns

/-- A recorder adds its marks. -/
theorem Layer.adds_recordAround (hw : inner.Adds p) {name : String}
    (hentered : ∀ page, p (.entered name page)) (hleft : ∀ status, p (.left name status)) :
    (Layer.recordAround name inner).Adds p where
  run page s := by
    rw [Layer.recordAround, Action.bind_of_returned (Action.record_eq _ s)]
    have hbefore : s.world.Extends p (s.record (.entered name page)).world :=
      World.Extends.record (hentered page)
    rcases hi : inner page (s.record (.entered name page)) with ⟨r | f | _, s₁⟩
    · rw [Action.bind_of_returned hi, Action.bind_of_returned (Action.record_eq _ s₁)]
      exact (hbefore.trans (hw.extends hi)).trans (World.Extends.record (hleft r.status))
    · rw [Action.bind_of_raised hi]
      exact hbefore.trans (hw.extends hi)
    · rw [Action.bind_of_unfinished hi]
      exact hbefore.trans (hw.extends hi)
  returns := Layer.returns_recordAround hw.returns name

end Layers

/-- What the layer adds of its own is such as `p` says. -/
def Layer.OwnAdds (p : Event → Prop) : Layer σ → Prop
  | .quota q => q.fetch.Adds p ∧ ∀ notice, p (.logged notice)
  | .retry r => p (.slept r.delay)
  | .pagination _ => True
  | .recorder name => (∀ page, p (.entered name page)) ∧ ∀ status, p (.left name status)

/-- A chain adds what its unit and its layers add. -/
theorem Chain.adds_around {chain : Chain σ} (hchain : ∀ layer ∈ chain, layer.OwnAdds p)
    {unit : Work σ ι} (hu : unit.Adds p) (fuel : Nat) : (chain.around fuel unit).Adds p := by
  induction chain with
  | nil => exact hu
  | cons layer chain ih =>
    obtain ⟨hlayer, hrest⟩ := List.forall_mem_cons.mp hchain
    have hinner := ih hrest
    rw [Chain.around_cons]
    cases layer with
    | quota q => exact QuotaWatch.adds_around hinner hlayer.1 hlayer.2
    | retry r => exact Retry.adds_around hinner hlayer
    | pagination pages => exact Pagination.adds_around hinner fuel pages
    | recorder name => exact Layer.adds_recordAround hinner hlayer.1 hlayer.2

/-- A probe adds its request. -/
theorem QuotaSnapshot.fetch_adds (t : Transport σ) (category : String)
    (hrequest : p (.requested QuotaSnapshot.request)) : (fetch t category).Adds p := by
  intro w
  rw [fetch_apply]
  exact ⟨_, rfl, by simpa using hrequest⟩

/-- A unit of work adds its request. -/
theorem Client.unit_adds {c : Client σ} {call : Call ι}
    (hrequest : ∀ page, p (.requested (call.request c.perPage page))) : (c.unit call).Adds p where
  run page s := by
    rw [unit_apply]
    exact ⟨_, rfl, by simpa using hrequest _⟩
  returns page s r s' h := by
    rw [unit_apply] at h
    obtain ⟨response, -, hresult⟩ := Call.ending_eq_returned (Prod.mk.inj h).1
    obtain ⟨items, hitems⟩ := Call.stages_of_result hresult
    rw [hitems]
    exact fun st ↦ World.Extends.refl st.world

/-- A call adds its requests, and what the layers of its chain add. -/
theorem Client.extends_run {c : Client σ} (hchain : ∀ layer ∈ c.chain, layer.OwnAdds p)
    {op : Operation} (hrequest : ∀ page, p (.requested (op.call.request c.perPage page)))
    (fuel : Nat) (w : World σ) : w.Extends p (c.run fuel op w).2 := by
  have hadds := Chain.adds_around hchain (unit_adds hrequest) fuel
  show w.Extends p (c.action fuel op.call { world := w }).2.world
  unfold action
  rcases h : c.chain.around fuel (c.unit op.call) noPage { world := w } with ⟨r | f | _, st⟩
  · rw [Action.bind_of_returned h]
    cases he : r.error with
    | some e => exact hadds.extends h
    | none => exact hadds.applied h rfl
  · rw [Action.bind_of_raised h]
    exact hadds.extends h
  · rw [Action.bind_of_unfinished h]
    exact hadds.extends h

/-- A call of a standard client adds its requests, a probe, pauses and notices. -/
theorem Client.extends_standard_run {t : Transport σ} {s : Settings} {op : Operation}
    (hrequest : ∀ page, p (.requested (op.call.request (.int s.perPage) page)))
    (hprobe : p (.requested QuotaSnapshot.request)) (hpause : p (.slept s.retryDelay))
    (hnotice : ∀ notice, p (.logged notice)) (fuel : Nat) (w : World σ) :
    w.Extends p ((standard t s).run fuel op w).2 := by
  have hwatch : (Layer.quota (s.watch t)).OwnAdds p :=
    ⟨QuotaSnapshot.fetch_adds t _ hprobe, hnotice⟩
  refine extends_run ?_ hrequest fuel w
  exact List.forall_mem_cons.mpr
    ⟨hwatch, List.forall_mem_cons.mpr ⟨hpause, List.forall_mem_singleton.mpr trivial⟩⟩

/-- The request asks for the operation. -/
structure Operation.Sends (op : Operation) (r : Request) : Prop where
  method_eq : r.method = op.method
  path_eq : r.path = op.path
  body_eq : r.body = op.body

theorem Operation.sends_request (op : Operation) (perPage : Value) (page : Int) :
    op.Sends (op.call.request perPage page) := ⟨rfl, rfl, rfl⟩

/-- If the event is a request, it asks for the operation, or it is that of a probe. -/
def Event.IsRequestOf (op : Operation) (e : Event) : Prop :=
  ∀ r ∈ e.request?, r = QuotaSnapshot.request ∨ op.Sends r

/-- A unit of work asks for its operation, once. -/
theorem Client.exists_request_unit (c : Client σ) (op : Operation) (page : Int)
    (st : State σ Item) : ∃ r, op.Sends r ∧
      (c.unit op.call page st).2.world.trace = st.world.trace ++ [.requested r] := by
  rw [unit_apply]
  exact ⟨_, op.sends_request .., rfl⟩

/-- A call of a standard client asks for nothing but its operation, apart from a probe. -/
theorem Client.requests_standard_run (t : Transport σ) (s : Settings) (op : Operation)
    (fuel : Nat) (w : World σ) :
    w.Extends (Event.IsRequestOf op) ((standard t s).run fuel op w).2 := by
  refine extends_standard_run (fun page ↦ ?_) ?_ nofun (fun _ ↦ nofun) fuel w
  · rintro _ ⟨⟩
    exact .inr (op.sends_request ..)
  · rintro _ ⟨⟩
    exact .inl rfl

end PullRelay
