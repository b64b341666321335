import PullRelay.Proofs.Client.Accounts

/-!
# A write that was accepted is not sent again

A call that does not come in pages sends its request again only after a failure.
`Client.run_success_is_last` says so for every chain of layers, whatever their
order, number and nesting, as long as the quotas are probed over the transport of
the client, and for every transport.

The account that carries it is `LastSuccess`: on the route of the call no exchange
but the last one has succeeded, and if a result carries an error, not even that
one.  A retry goes on after an error only.
-/

namespace PullRelay

variable {σ ι : Type}

/-- The request was answered without a failure of the transport and with a status
below 404. -/
def Exchange.Succeeds (x : Exchange) : Prop :=
  ∃ response, x.answer = .ok response ∧ response.error = none ∧ response.status < 404

/-- No exchange but the last one succeeds, and that one only if the work does. -/
structure LastSuccess (xs : List Exchange) (outcome : Ending (Delivery ι)) : Prop where
  earlier : ∀ x ∈ xs.dropLast, ¬x.Succeeds
  single : ∀ d, outcome = .returned d → d.next = none
  failed : ∀ d, outcome = .returned d → d.error ≠ none → ∀ x ∈ xs, ¬x.Succeeds

namespace LastSuccess

theorem closed : Account.Closed (ι := ι) LastSuccess where
  single h := h.single _ rfl
  exhausted := by
    rintro xs d e h he errors
    refine ⟨h.earlier, ?_, ?_⟩
    · rintro _ ⟨⟩
      exact h.single d rfl
    · rintro _ ⟨⟩ -
      exact h.failed d rfl (by simp [he])
  again := by
    rintro xs ys d e outcome h he rest
    have hxs := h.failed d rfl (by simp [he])
    refine ⟨fun x hx ↦ ?_, rest.single, fun d' hd' he' x hx ↦ ?_⟩
    · rw [List.dropLast_append] at hx
      split at hx
      · exact hxs x (List.dropLast_subset _ hx)
      · rcases List.mem_append.mp hx with hx | hx
        · exact hxs x hx
        · exact rest.earlier x hx
    · rcases List.mem_append.mp hx with hx | hx
      · exact hxs x hx
      · exact rest.failed d' hd' he' x hx

/-- What a failed probe leaves of it. -/
theorem raised {xs : List Exchange} {outcome : Ending (Delivery ι)} (h : LastSuccess xs outcome)
    (f : Failure) : LastSuccess xs (.raised f : Ending (Delivery ι)) :=
  ⟨h.earlier, by simp, by simp⟩

/-- A unit of an operation without pages carries an error if its request fails. -/
theorem of_exchange (c : Client σ) {op : Operation} (hop : op.isPaginated = false) (page : Int)
    (m : σ) : LastSuccess [c.exchange op.call page m]
      (op.call.outcome c.room (c.exchange op.call page m).answer) := by
  refine ⟨by simp, ?_, ?_⟩
  · intro d hd
    obtain ⟨response, -, -, hnext⟩ := Call.outcome_eq_returned hd
    simpa [Call.nextPage, hop, eq_comm] using hnext
  · rintro d hd he x hx ⟨response, hx', hgood⟩
    obtain rfl := List.mem_singleton.mp hx
    obtain ⟨response', hanswer, hread, -⟩ := Call.outcome_eq_returned hd
    obtain rfl : response' = response := by simpa [hanswer] using hx'
    have herror := Operation.readPage_error hop hread
    rw [Response.failure?_eq_none_iff.mpr hgood] at herror
    exact he (Except.ok.inj herror).symm

/-- The one success of a list of exchanges stands at its end. -/
theorem eq_nil_of_append {earlier later : List Exchange} {x : Exchange}
    {outcome : Ending (Delivery ι)} (h : LastSuccess (earlier ++ x :: later) outcome)
    (hx : x.Succeeds) : later = [] := by
  rcases List.eq_nil_or_concat later with rfl | ⟨rest, y, rfl⟩
  · rfl
  · refine absurd hx (h.earlier x ?_)
    rw [List.concat_eq_append, ← List.cons_append, ← List.append_assoc, List.dropLast_concat]
    simp

end LastSuccess

/-- In a call without pages, a request that succeeds is the last one on its route, and
every request on the route before it failed.  The chain may hold layers of every kind,
with any budgets, classifiers and bounds; quotas are probed over the transport. -/
theorem Client.run_success_is_last {c : Client σ}
    (hc : ∀ q, Layer.quota q ∈ c.chain →
      ∃ category, q.fetch = QuotaSnapshot.fetch c.transport category)
    {op : Operation} (hop : op.isPaginated = false) (fuel : Nat) (w : World σ) :
    ∃ events, (c.run fuel op w).2 = w.after c.transport events ∧
      ∀ earlier x later,
        c.transport.exchangesOn op.method op.path w.machine events = earlier ++ x :: later →
        x.Succeeds → later = [] ∧ ∀ y ∈ earlier, ¬y.Succeeds := by
  have hq (q) (hmem : Layer.quota q ∈ c.chain) :
      q.Keeps (Account.runs (ι := Item) LastSuccess c.transport op.method op.path) := by
    obtain ⟨category, hfetch⟩ := hc q hmem
    have hover := QuotaSnapshot.fetch_over_route c.transport category op
    exact Account.keeps (hfetch ▸ hover) fun _ f _ _ xs outcome h ↦ h.raised f
  obtain ⟨events, outcome, hw, h, -⟩ :=
    Client.run_account LastSuccess.closed hq (LastSuccess.of_exchange c hop) fuel w
  refine ⟨events, hw, fun earlier x later hsplit hx ↦ ?_⟩
  rw [hsplit] at h
  obtain rfl := h.eq_nil_of_append hx
  refine ⟨rfl, fun y hy ↦ h.earlier y ?_⟩
  rw [List.dropLast_concat]
  exact hy

/-- A server that refuses the first request and accepts all later ones. -/
def Transport.refusingFirst : Transport Nat := fun _ n ↦
  (.ok { status := if n = 0 then 500 else 201 }, n + 1)

/-- A client of it that retries outside of its pages and inside of them. -/
def Client.nested : Client Nat where
  transport := .refusingFirst
  chain := [.quota ⟨QuotaSnapshot.fetch .refusingFirst QuotaSnapshot.coreCategory, 100⟩,
    .retry (.ofAttempts 3 .nan Failure.isRetryable), .pagination .unbounded,
    .retry (.ofAttempts 2 .nan Failure.isRetryable)]

/-- A comment on the first issue. -/
def Operation.greeting : Operation := .createIssueComment ⟨"o", "r", 1⟩ (.text "hello")

/-- The comment goes out twice, and the quota is asked for once after that. -/
theorem Client.nested_success_is_last :
    (Client.nested.run 5 .greeting { machine := 0 }).2.machine = 3 ∧
    ∃ events, (Client.nested.run 5 .greeting { machine := 0 }).2 =
        World.after .refusingFirst { machine := 0 } events ∧
      ∀ earlier x later,
        Transport.exchangesOn .refusingFirst "POST" "/repos/o/r/issues/1/comments" 0 events =
          earlier ++ x :: later →
        x.Succeeds → later = [] ∧ ∀ y ∈ earlier, ¬y.Succeeds := by
  have hpath : Operation.greeting.path = "/repos/o/r/issues/1/comments" := by decide
  refine ⟨by decide +kernel, ?_⟩
  rw [← hpath]
  refine Client.run_success_is_last (c := Client.nested) ?_ ?_ 5 { machine := 0 }
  · intro q hq
    simp only [nested, List.mem_cons, Layer.quota.injEq, reduceCtorEq, List.not_mem_nil,
      or_false] at hq
    exact ⟨QuotaSnapshot.coreCategory, by rw [hq]; rfl⟩
  · rfl

end PullRelay
