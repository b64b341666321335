import PullRelay.Proofs.Client.Calls

/-!
# Accounts of single answers

An account is a statement on the exchanges of a run on one route, in order, and the
outcome of the run.  For calls whose answers name no further page it is enough to
check an account on one exchange of the unit of work and on what a retry makes of
two runs, the first of which failed (`Account.Closed`): then it holds of the whole
call inside any chain (`Client.run_account`).  Everything off the route, such as
probes and notices about the quota, is dealt with here.
-/

namespace PullRelay

variable {σ ι : Type}

/-- A statement on the exchanges of a run on one route and on what it delivers. -/
abbrev Account (ι : Type) := List Exchange → Ending (Delivery ι) → Prop

namespace Account

/-- The runs that an account is true of. -/
def runs (A : Account ι) (t : Transport σ) (method path : String) : Runs σ ι :=
  fun w outcome w' ↦
    ∃ events, w' = w.after t events ∧ A (t.exchangesOn method path w.machine events) outcome

/-- An account of work that names no further page, and that survives a retry. -/
structure Closed (A : Account ι) : Prop where
  single {xs d} (h : A xs (.returned d)) : d.next = none
  exhausted {xs d e} (h : A xs (.returned d)) (he : d.error = some e) (errors : List Failure) :
    A xs (.returned (d.failing (.exhausted errors)))
  again {xs ys d e outcome} (h : A xs (.returned d)) (he : d.error = some e)
    (rest : A ys outcome) : A (xs ++ ys) outcome

variable {A : Account ι} {t : Transport σ} {method path : String}

/-- An event that is no request may come before. -/
theorem runs_before {w w' : World σ} {outcome : Ending (Delivery ι)} {e : Event}
    (he : e.request? = none) (h : A.runs t method path (w.record e) outcome w') :
    A.runs t method path w outcome w' := by
  obtain ⟨events, hw, h⟩ := h
  refine ⟨e :: events, ?_, ?_⟩
  · rw [hw, World.record_eq_after he, World.after_after, List.singleton_append]
  · rw [World.record_eq_after (t := t) he] at h
    rwa [← List.singleton_append, Transport.exchangesOn_append,
      Transport.exchangesOn_eq_nil t fun r hr ↦ absurd hr (Event.requested_notMem_singleton he r),
      List.nil_append]

/-- Events off the route may follow. -/
theorem runs_after {w w₁ w' : World σ} {outcome outcome' : Ending (Delivery ι)}
    {events : List Event}
    (h : A.runs t method path w outcome w₁) (hw : w' = w₁.after t events)
    (hoff : ∀ r, Event.requested r ∈ events → r.isOn method path = false)
    (hA : ∀ xs, A xs outcome → A xs outcome') : A.runs t method path w outcome' w' := by
  obtain ⟨before, rfl, hrun⟩ := h
  refine ⟨before ++ events, by rw [hw, World.after_after], hA _ ?_⟩
  rwa [Transport.exchangesOn_append, Transport.exchangesOn_eq_nil t hoff, List.append_nil]

/-- No pagination goes on, so only retries join runs. -/
theorem Closed.runs (hA : A.Closed) : (A.runs t method path).Closed where
  before he h := runs_before he h
  after he h := runs_after h (World.record_eq_after he)
    (fun r hr ↦ absurd hr (Event.requested_notMem_singleton he r)) fun _ ↦ id
  limited := by
    rintro w r w' next ⟨events, -, h⟩ - hn
    simp [Delivery.cursor?, hA.single h] at hn
  spent := by
    rintro w r w' next ⟨events, -, h⟩ - hn
    simp [Delivery.cursor?, hA.single h] at hn
  page := by
    rintro w r w₁ next outcome w' ⟨events, -, h⟩ - hn
    simp [Delivery.cursor?, hA.single h] at hn
  exhausted := by
    rintro w r w' e ⟨events, hw, h⟩ he errors
    exact ⟨events, hw, hA.exhausted h he errors⟩
  again := by
    rintro w r w₁ e outcome w' ⟨events, rfl, h⟩ he ⟨events', hw, h'⟩
    refine ⟨events ++ events', by rw [hw, World.after_after], ?_⟩
    rw [Transport.exchangesOn_append]
    exact hA.again h he h'

/-- Probing the quota off the route keeps an account that allows for the failures of the
probe. -/
theorem keeps {q : QuotaWatch σ} (hover : q.fetch.Over t (·.isOn method path = false))
    (hraise : ∀ w f, (q.fetch w).1 = .error f → f.isPipeline = false →
      ∀ xs outcome, A xs outcome → A xs (.raised f)) : q.Keeps (A.runs t method path) := by
  intro w outcome w' answer w'' h hc
  obtain ⟨events, hw, hoff⟩ := QuotaWatch.check_over hover w'
  rw [hc] at hw
  cases answer with
  | ok _ => exact runs_after h hw hoff fun _ ↦ id
  | error f =>
    have hcheck := hc.symm.trans (QuotaWatch.check_eq rfl t)
    obtain ⟨hprobe, hpipeline⟩ := QuotaWatch.of_verdict_eq_error (Prod.mk.inj hcheck).1.symm
    exact runs_after h hw hoff fun xs ↦ hraise w' f hprobe hpipeline xs outcome

end Account

/-- The exchange of a unit of work. -/
def Client.exchange (c : Client σ) (call : Call ι) (page : Int) (m : σ) : Exchange where
  request := call.request c.perPage page
  answer := (c.transport (call.request c.perPage page) m).1

/-- An account that holds of each exchange of a unit of work holds of its runs. -/
theorem Account.unit_satisfies {A : Account ι} {c : Client σ} {call : Call ι}
    (h : ∀ page m,
      A [c.exchange call page m] (call.outcome c.room (c.exchange call page m).answer)) :
    (c.unit call).Satisfies (A.runs c.transport call.method call.path) := by
  refine Client.unit_satisfies fun page w ↦ ⟨_, rfl, ?_⟩
  have hlone : c.transport.exchangesOn call.method call.path w.machine
      [.requested (call.request c.perPage page)] = [c.exchange call page w.machine] := by
    simp [Transport.exchangesOn, Transport.exchanges, Event.request?, Client.exchange]
  rw [hlone]
  exact h page w.machine

/-- A closed account that holds of each exchange of an operation holds of the whole call. -/
theorem Client.run_account {A : Account Item} (hA : A.Closed) {c : Client σ} {op : Operation}
    (hq : ∀ q, Layer.quota q ∈ c.chain → q.Keeps (A.runs c.transport op.method op.path))
    (hu : ∀ page m,
      A [c.exchange op.call page m] (op.call.outcome c.room (c.exchange op.call page m).answer))
    (fuel : Nat) (w : World σ) :
    ∃ events outcome, (c.run fuel op w).2 = w.after c.transport events ∧
      A (c.transport.exchangesOn op.method op.path w.machine events) outcome ∧
      (c.run fuel op w).1 = answer c.room op outcome := by
  obtain ⟨outcome, ⟨events, hw, h⟩, hanswer⟩ := Client.exists_outcome_run
    (Chain.satisfies_around hA.runs hq (Account.unit_satisfies hu) fuel) w
  exact ⟨events, outcome, hw, h, hanswer⟩

end PullRelay
