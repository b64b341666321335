import PullRelay.Proofs.Listing.Pages

/-!
# Calls for lists

The retries of a standard client are the attempts of the reference, and a whole call
for a list is a run of it (`Client.run_listing`): whatever the transport answers, the
call and the reference send the same requests in the same order, pause as often, and
come to the same list or failure.
-/

namespace PullRelay

variable {σ : Type}

namespace Listing

variable {t : Transport σ} {op : Operation} {s : Settings}

/-- A retry of pages that ends is a run of attempts. -/
theorem attempts_of_retries (hop : op.isPaginated = true) (ht : Answers t op s.room)
    (hs : s.maxPages ≠ some 0) {fuel left : Nat} {page : Int} {errors : List Failure}
    {st st' : State σ Item} {ending : Ending (Result σ Item)}
    (h : s.retry.Attempts (s.pagination.around fuel ((Client.unwatched t s).unit op.call)) page 0
      left errors st ending st') (hend : ending ≠ .unfinished) :
    ∃ outcome, Attempts t op s left errors st.world outcome st'.world ∧
      Comes op [] ending st'.staged outcome := by
  induction h with
  | raised h =>
    obtain ⟨_, -, hcomes⟩ := attempt_of_pages hop ht hs h (by simp)
    cases hcomes
  | unfinished _ => exact absurd rfl hend
  | settled h stop =>
    obtain ⟨_, hattempt, hcomes⟩ := attempt_of_pages hop ht hs h (by simp)
    rw [State.staged_cut, List.take_zero] at hcomes
    refine ⟨_, ?_, hcomes⟩
    cases hcomes with
    | success _ _ => exact .success hattempt
    | failure he => exact .refused hattempt (stop _ he)
  | exhausted h he ha =>
    obtain ⟨_, hattempt, hcomes⟩ := attempt_of_pages hop ht hs h (by simp)
    obtain rfl := hcomes.eq_error he
    exact ⟨_, .exhausted hattempt ha, .failure rfl⟩
  | again h he ha _ ih =>
    obtain ⟨_, hattempt, hcomes⟩ := attempt_of_pages hop ht hs h (by simp)
    obtain rfl := hcomes.eq_error he
    obtain ⟨outcome, hrest, hcomes⟩ := ih hend
    exact ⟨outcome, .again hattempt ha hrest, hcomes⟩

/-- With enough fuel a run of attempts is a retry of pages. -/
theorem retries_of_attempts (hop : op.isPaginated = true) (ht : Answers t op s.room)
    (hs : s.maxPages ≠ some 0) {left : Nat} {errors : List Failure} {w w' : World σ}
    {outcome : Except Failure Answer} (h : Attempts t op s left errors w outcome w') :
    ∃ enough, ∀ fuel, enough ≤ fuel → ∀ page staged, ∃ ending st',
      s.retry.Attempts (s.pagination.around fuel ((Client.unwatched t s).unit op.call)) page 0
        left errors ⟨w, staged⟩ ending st' ∧ st'.world = w' ∧
      Comes op [] ending st'.staged outcome := by
  induction h with
  | success h =>
    obtain ⟨enough, hpages⟩ := pages_of_attempt hop ht hs h
    refine ⟨enough, fun fuel hfuel page staged ↦ ?_⟩
    obtain ⟨_, st', hrun, hw, hcomes⟩ := hpages fuel hfuel page []
    obtain ⟨r, rfl, he⟩ := hcomes.exists_result
    exact ⟨_, st', .settled hrun (by simp [he]), hw, hcomes⟩
  | refused h hfinal =>
    obtain ⟨enough, hpages⟩ := pages_of_attempt hop ht hs h
    refine ⟨enough, fun fuel hfuel page staged ↦ ?_⟩
    obtain ⟨_, st', hrun, hw, hcomes⟩ := hpages fuel hfuel page []
    obtain ⟨r, rfl, he⟩ := hcomes.exists_result
    refine ⟨_, st', .settled hrun ?_, hw, hcomes⟩
    rintro e he'
    obtain rfl := Option.some.inj (he.symm.trans he')
    exact hfinal
  | exhausted h hretry =>
    obtain ⟨enough, hpages⟩ := pages_of_attempt hop ht hs h
    refine ⟨enough, fun fuel hfuel page staged ↦ ?_⟩
    obtain ⟨_, st', hrun, hw, hcomes⟩ := hpages fuel hfuel page []
    obtain ⟨r, rfl, he⟩ := hcomes.exists_result
    exact ⟨_, _, .exhausted hrun he hretry, hw, .failure rfl⟩
  | again h hretry _ ih =>
    obtain ⟨enough, hpages⟩ := pages_of_attempt hop ht hs h
    obtain ⟨enough', hrest⟩ := ih
    refine ⟨max enough enough', fun fuel hfuel page staged ↦ ?_⟩
    obtain ⟨_, st₁, hrun, rfl, hcomes⟩ := hpages fuel (Nat.max_le.mp hfuel).1 page []
    obtain ⟨r, rfl, he⟩ := hcomes.exists_result
    obtain ⟨ending, st', hrest, hw, hcomes⟩ :=
      hrest fuel (Nat.max_le.mp hfuel).2 page st₁.staged
    exact ⟨ending, st', .again hrun he hretry hrest, hw, hcomes⟩

/-- What the chain comes to is how the call ends. -/
theorem run_of_comes (hop : op.isPaginated = true) {fuel : Nat} {w : World σ} {st : State σ Item}
    {chainEnding : Ending (Result σ Item)} {outcome : Except Failure Answer}
    (h : (Client.unwatched t s).chain.around fuel ((Client.unwatched t s).unit op.call) noPage
      { world := w } = (chainEnding, st)) (hcomes : Comes op [] chainEnding st.staged outcome) :
    (Client.unwatched t s).run fuel op w = (ending outcome, st.world) := by
  generalize hstaged : st.staged = staged at hcomes
  cases hcomes with
  | success he ha =>
    rw [Client.run_of_succeeded h he (ha.trans Action.stage_nil.symm), hstaged, List.append_nil,
      Ending.mapExcept, Operation.conclude_eq_ok hop]
    rfl
  | failure he => exact Client.run_of_failed h he

/-- The chain retries its pages from an empty buffer. -/
theorem around_eq_attempt (fuel : Nat) (w : World σ) :
    (Client.unwatched t s).chain.around fuel ((Client.unwatched t s).unit op.call) noPage
        { world := w } =
      s.retry.attempt (s.pagination.around fuel ((Client.unwatched t s).unit op.call)) noPage 0
        (max 1 s.retryAttempts - 1).toNat [] { world := w } := by
  have hleft : s.retry.further = (max 1 s.retryAttempts - 1).toNat := by
    simp only [Settings.retry, Retry.ofAttempts]
    omega
  rw [← hleft]
  rfl

/-- A call without the watch that ends is a run of attempts. -/
theorem attempts_of_run (hop : op.isPaginated = true) (ht : Answers t op s.room)
    (hs : s.maxPages ≠ some 0) {fuel : Nat} {w w' : World σ} {outcome : Except Failure Answer}
    (h : (Client.unwatched t s).run fuel op w = (ending outcome, w')) :
    Attempts t op s (max 1 s.retryAttempts - 1).toNat [] w outcome w' := by
  rcases hchain : (Client.unwatched t s).chain.around fuel
    ((Client.unwatched t s).unit op.call) noPage { world := w } with ⟨chainEnding, st⟩
  have hend : chainEnding ≠ .unfinished := by
    rintro rfl
    rw [Client.run_of_unfinished hchain] at h
    cases outcome <;> cases (Prod.mk.inj h).1
  rw [around_eq_attempt, Retry.attempt_eq_iff] at hchain
  obtain ⟨outcome', hattempts, hcomes⟩ := attempts_of_retries hop ht hs hchain hend
  rw [← Retry.attempt_eq_iff, ← around_eq_attempt] at hchain
  rw [run_of_comes hop hchain hcomes] at h
  obtain ⟨hending, rfl⟩ := Prod.mk.inj h
  obtain rfl : outcome' = outcome := by
    cases outcome' <;> cases outcome <;> cases hending <;> rfl
  exact hattempts

/-- With enough fuel a run of attempts is a call without the watch. -/
theorem run_of_attempts (hop : op.isPaginated = true) (ht : Answers t op s.room)
    (hs : s.maxPages ≠ some 0) {w w' : World σ} {outcome : Except Failure Answer}
    (h : Attempts t op s (max 1 s.retryAttempts - 1).toNat [] w outcome w') :
    ∃ enough, ∀ fuel, enough ≤ fuel →
      (Client.unwatched t s).run fuel op w = (ending outcome, w') := by
  obtain ⟨enough, hretries⟩ := retries_of_attempts hop ht hs h
  refine ⟨enough, fun fuel hfuel ↦ ?_⟩
  obtain ⟨chainEnding, st, hrun, rfl, hcomes⟩ := hretries fuel hfuel noPage []
  rw [← Retry.attempt_eq_iff, ← around_eq_attempt] at hrun
  exact run_of_comes hop hrun hcomes

end Listing

/-- A call for a list, of a client from settings, that ends has done what the reference
does, with the same outcome, requests, pauses and notices; and what the reference does is
what the call does with enough fuel. -/
theorem Client.run_listing {t : Transport σ} {s : Settings} {c : Client σ}
    (hc : Client.ofSettings t s = .ok c) {op : Operation} (hop : op.isPaginated = true)
    (ht : ∀ r m, ∃ response, (t r m).1 = .ok response ∧
      (r.path = op.path → ∃ result : Result σ Item, op.call.result s.room response = .ok result))
    (w w' : World σ) (outcome : Except Failure Answer) :
    (∀ fuel, c.run fuel op w = (Listing.ending outcome, w') → Listing.Run t op s w outcome w') ∧
    (Listing.Run t op s w outcome w' →
      ∃ enough, ∀ fuel, enough ≤ fuel → c.run fuel op w = (Listing.ending outcome, w')) := by
  obtain ⟨-, hs, rfl⟩ := Client.ofSettings_eq_ok_iff.mp hc
  have hanswers : t.AnswersProbes := fun m ↦ (ht _ m).imp fun _ h ↦ h.1
  constructor
  · intro fuel h
    rw [Client.standard_run_eq hanswers] at h
    rcases hrun : (unwatched t s).run fuel op w with ⟨answer, w₁⟩
    rw [hrun] at h
    cases answer with
    | returned _ | raised _ =>
      obtain ⟨hending, rfl⟩ := Prod.mk.inj h
      rw [hending] at hrun
      exact .intro (Listing.attempts_of_run hop ht hs hrun)
    | unfinished => cases outcome <;> cases (Prod.mk.inj h).1
  · rintro ⟨h⟩
    obtain ⟨enough, hrun⟩ := Listing.run_of_attempts hop ht hs h
    refine ⟨enough, fun fuel hfuel ↦ ?_⟩
    rw [Client.standard_run_eq hanswers, hrun fuel hfuel]
    cases outcome <;> rfl

/-- A server that fails to answer the second request; the fourth is for the last page. -/
def Transport.flaky : Transport Nat := fun _ n ↦
  (.ok (match n with
    | 1 => { status := 502 }
    | 3 => { status := 200, payload := .list [.object [("id", .int 2)]] }
    | _ =>
      { status := 200
        headers := [("Link", .text "<https://api.github.com/comments?page=2>; rel=\"next\"")]
        payload := .list [.object [("id", .int 1)]] }), n + 1)

/-- The call did not run out of fuel. -/
def Ending.isFinished {α : Type} : Ending α → Bool
  | .unfinished => false
  | _ => true

/-- The comments of the first issue. -/
def Operation.firstComments : Operation := .issueComments ⟨"o", "r", 1⟩

/-- Four requests for pages and a probe are made. -/
theorem Client.flaky_run_listing :
    ((Client.standard .flaky {}).run 5 .firstComments { machine := 0 }).2.machine = 5 ∧
    ∃ outcome, Listing.Run .flaky .firstComments {} { machine := 0 } outcome
      ((Client.standard .flaky {}).run 5 .firstComments { machine := 0 }).2 := by
  have hc : Client.ofSettings .flaky {} = .ok (Client.standard .flaky {}) :=
    Client.ofSettings_eq_ok_iff.mpr ⟨by decide, by decide, rfl⟩
  have hread (response : Response)
      (h : (Operation.firstComments.call.result (σ := Nat) {} response).isOk = true) :
      ∃ result : Result Nat Item, Operation.firstComments.call.result {} response = .ok result := by
    cases hr : Operation.firstComments.call.result (σ := Nat) {} response with
    | ok result => exact ⟨result, rfl⟩
    | error fault => rw [hr] at h; cases h
  have ht (r : Request) (n : Nat) : ∃ response, (Transport.flaky r n).1 = .ok response ∧
      (r.path = Operation.firstComments.path → ∃ result : Result Nat Item,
        Operation.firstComments.call.result {} response = .ok result) := by
    refine ⟨_, rfl, fun _ ↦ hread _ ?_⟩
    split <;> decide +kernel
  have hends : ((Client.standard .flaky {}).run 5 .firstComments { machine := 0 }).1.isFinished =
      true := by decide +kernel
  refine ⟨by decide +kernel, ?_⟩
  rcases hrun : (Client.standard .flaky {}).run 5 .firstComments { machine := 0 } with
    ⟨answer | f | _, w'⟩
  · exact ⟨.ok answer, (Client.run_listing hc rfl ht _ _ _).1 5 hrun⟩
  · exact ⟨.error f, (Client.run_listing hc rfl ht _ _ _).1 5 hrun⟩
  · rw [hrun] at hends
    cases hends

end PullRelay
