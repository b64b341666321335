import PullRelay.Proofs.Client.Calls

/-!
# Clients from settings

A client from settings has a chain of three layers, which `Client.standard` writes
down.  The outermost of them, the watch on the quota, is kept apart from the other
two here: over a transport that does not raise, a call of a standard client is a
call of the client without the watch, and then one probe that changes nothing but
the machine and the trace (`Client.standard_run_eq`).
-/

namespace PullRelay

variable {σ ι : Type}

namespace Settings

/-- The attempts that settings allow for, and the pause between two of them. -/
def retry (s : Settings) : Retry := .ofAttempts s.retryAttempts s.retryDelay Failure.isRetryable

/-- The bound on pages of settings. -/
def pagination (s : Settings) : Pagination := ⟨s.maxPagesValue⟩

/-- The watch of settings. -/
def watch (s : Settings) (t : Transport σ) : QuotaWatch σ where
  fetch := QuotaSnapshot.fetch t QuotaSnapshot.coreCategory
  threshold := s.rateLimitThreshold

end Settings

namespace Client

/-- The client of settings without its watch. -/
def unwatched (t : Transport σ) (s : Settings) : Client σ where
  transport := t
  chain := [.retry s.retry, .pagination s.pagination]
  perPage := .int s.perPage
  room := s.room

/-- The client of settings. -/
def standard (t : Transport σ) (s : Settings) : Client σ where
  transport := t
  chain := .quota (s.watch t) :: (unwatched t s).chain
  perPage := .int s.perPage
  room := s.room

theorem retry_ofValues (s : Settings) :
    Retry.ofValues s.options.retryAttempts s.options.retryDelay Failure.isRetryable =
      if s.retryDelay.belowInt 0 then .error (.negativeDelay (.real s.retryDelay))
      else .ok s.retry := by
  cases h : s.retryDelay.belowInt 0 <;>
  simp [Retry.ofValues, Settings.options, Value.isBelow, Value.belowInt?, h, Value.toInt,
    Value.toReal, Settings.retry, bind, Except.bind, pure, Except.pure, throw, throwThe,
    MonadExceptOf.throw]

theorem pagination_ofValue (s : Settings) :
    Pagination.ofValue s.options.maxPages =
      if s.maxPages = some 0 then .error (.pageBoundTooSmall (.int 0)) else .ok s.pagination := by
  unfold Settings.options Settings.pagination Settings.maxPagesValue
  rcases s.maxPages with _ | _ | n
  · rfl
  · rfl
  · have hn : ¬((n : Int) + 1 < 1) := by omega
    simp [Pagination.ofValue, Value.isBelow, Value.belowInt?, bind, Except.bind, pure,
      Except.pure, hn]

/-- What settings make over a transport: a client, unless their pause is below zero or their
bound is zero. -/
theorem ofSettings_eq (t : Transport σ) (s : Settings) :
    Client.ofSettings t s =
      if s.retryDelay.belowInt 0 then .error (.negativeDelay (.real s.retryDelay))
      else if s.maxPages = some 0 then .error (.pageBoundTooSmall (.int 0))
      else .ok (standard t s) := by
  have hwatch : QuotaWatch.ofValue (QuotaSnapshot.fetch t QuotaSnapshot.coreCategory)
      s.options.rateLimitThreshold = .ok (s.watch t) := rfl
  rw [Client.ofSettings, Client.ofOptions, Chain.standard, hwatch, retry_ofValues,
    pagination_ofValue]
  cases hdelay : s.retryDelay.belowInt 0 with
  | true => rfl
  | false =>
    by_cases hbound : s.maxPages = some 0
    · simp only [hbound, if_true]
      rfl
    · simp only [hbound, if_false]
      rfl

theorem ofSettings_eq_ok_iff {t : Transport σ} {s : Settings} {c : Client σ} :
    Client.ofSettings t s = .ok c ↔
      s.retryDelay.belowInt 0 = false ∧ s.maxPages ≠ some 0 ∧ c = standard t s := by
  rw [ofSettings_eq]
  cases s.retryDelay.belowInt 0 with
  | true => simp
  | false => by_cases hbound : s.maxPages = some 0 <;> simp [hbound, eq_comm]

end Client

/-! ## Calls without the watch -/

/-- What is logged about a probe: an error if it failed, a warning if too little is left. -/
def Settings.remarks (s : Settings) : Except Failure QuotaSnapshot → List Log.Notice
  | .ok snapshot => if snapshot.remaining < s.rateLimitThreshold then [.quotaLow snapshot] else []
  | .error f => [.probeFailed f.message]

/-- What a probe of a machine finds. -/
def Transport.probe (t : Transport σ) (m : σ) : Except Failure QuotaSnapshot :=
  (t QuotaSnapshot.request m).1.bind (QuotaSnapshot.ofResponse QuotaSnapshot.coreCategory)

/-- What a watch of settings does once a call has ended. -/
def Settings.probing (s : Settings) (t : Transport σ) (m : σ) : List Event :=
  .requested QuotaSnapshot.request :: (s.remarks (t.probe m)).map .logged

/-- The probe is all that changes the machine. -/
theorem Settings.machineAfter_probing (s : Settings) (t : Transport σ) (m : σ) :
    t.machineAfter m (s.probing t m) = (t QuotaSnapshot.request m).2 := by
  have hremarks (e) (he : e ∈ (s.remarks (t.probe m)).map Event.logged) : e.request? = none := by
    obtain ⟨notice, -, rfl⟩ := List.mem_map.mp he
    rfl
  exact t.machineAfter_of_forall hremarks (t QuotaSnapshot.request m).2

/-- It does so by the answer to the probe. -/
theorem Settings.probing_of_answered (s : Settings) {t : Transport σ} {m : σ} {response : Response}
    (h : (t QuotaSnapshot.request m).1 = .ok response) :
    s.probing t m = .requested QuotaSnapshot.request ::
      (s.remarks (QuotaSnapshot.ofResponse QuotaSnapshot.coreCategory response)).map .logged := by
  rw [probing, Transport.probe, h]
  rfl

/-- What a watch of settings does at the end of a call if its probe gets this response: nothing
if the call does not end. -/
def Settings.closing (s : Settings) (response : Response) : Ending Answer → List Event
  | .unfinished => []
  | _ =>
    .requested QuotaSnapshot.request ::
      (s.remarks (QuotaSnapshot.ofResponse QuotaSnapshot.coreCategory response)).map .logged

theorem Settings.closing_of_ne (s : Settings) (response : Response) {ending : Ending Answer}
    (h : ending ≠ .unfinished) : s.closing response ending =
      .requested QuotaSnapshot.request ::
        (s.remarks (QuotaSnapshot.ofResponse QuotaSnapshot.coreCategory response)).map .logged := by
  cases ending with
  | unfinished => exact absurd rfl h
  | returned _ | raised _ => rfl

/-- The only request at the end of a call is that of the probe. -/
theorem Settings.eq_of_mem_closing {s : Settings} {response : Response} {ending : Ending Answer}
    {r : Request} (h : .requested r ∈ s.closing response ending) : r = QuotaSnapshot.request := by
  unfold closing at h
  split at h
  · cases h
  · simpa using h

/-- The transport answers probes, and does not raise anything itself. -/
def Transport.AnswersProbes (t : Transport σ) : Prop :=
  ∀ m, ∃ response, (t QuotaSnapshot.request m).1 = .ok response

/-- A watch does nothing about a run that does not end. -/
theorem QuotaWatch.around_of_unfinished (q : QuotaWatch σ) {inner : Work σ ι} {page : Int}
    {st st' : State σ ι} (h : inner page st = (.unfinished, st')) :
    q.around inner page st = (.unfinished, st') := by rw [around, Action.andFinally, h]

/-- An ending, unless something is raised after it. -/
def Ending.orRaised {α β : Type} (ending : Ending α) : Except Failure β → Ending α
  | .ok _ => ending
  | .error f => .raised f

@[simp] theorem Ending.map_orRaised {α β γ : Type} (f : α → γ) (ending : Ending α)
    (answer : Except Failure β) : (ending.orRaised answer).map f = (ending.map f).orRaised answer := by
  cases answer <;> rfl

/-- After a run that ends it checks, and what the check raises takes the place of the ending. -/
theorem QuotaWatch.around_of_check {q : QuotaWatch σ} {inner : Work σ ι} {page : Int}
    {st st' : State σ ι} {ending : Ending (Result σ ι)} (h : inner page st = (ending, st'))
    (hend : ending ≠ .unfinished) {answer : Except Failure (Option QuotaSnapshot)} {w : World σ}
    (hcheck : q.check st'.world = (answer, w)) :
    q.around inner page st = (ending.orRaised answer, { st' with world := w }) := by
  rw [around, Action.andFinally, h]
  cases ending with
  | unfinished => exact absurd rfl hend
  | returned _ | raised _ => cases answer <;> simp only [Action.ofOutside, hcheck] <;> rfl

/-- The check of settings is one probe, and does not fail if that is answered. -/
theorem Settings.check_watch {t : Transport σ} (s : Settings) {w : World σ}
    (ht : ∃ response, (t QuotaSnapshot.request w.machine).1 = .ok response) :
    ∃ snapshot, (s.watch t).check w = (.ok snapshot, w.after t (s.probing t w.machine)) := by
  have hfetch : (s.watch t).fetch w = (t.probe w.machine, w.after t [.requested _]) :=
    QuotaSnapshot.fetch_apply t QuotaSnapshot.coreCategory w
  have hpipeline (f) (hf : t.probe w.machine = .error f) : f.isPipeline = true :=
    QuotaSnapshot.fetch_isPipeline ht ((congrArg Prod.fst hfetch).trans hf)
  have hremarks : QuotaWatch.notices (s.watch t).threshold (t.probe w.machine) =
      s.remarks (t.probe w.machine) := by
    cases hprobe : t.probe w.machine with
    | ok snapshot => rfl
    | error f => simp [QuotaWatch.notices, remarks, hpipeline f hprobe]
  have hcheck := QuotaWatch.check_eq hfetch t
  rw [World.after_after, List.singleton_append, hremarks] at hcheck
  cases hverdict : QuotaWatch.verdict (t.probe w.machine) with
  | ok snapshot => exact ⟨snapshot, hverdict ▸ hcheck⟩
  | error f =>
    obtain ⟨hprobe, hforeign⟩ := QuotaWatch.of_verdict_eq_error hverdict
    rw [hpipeline f hprobe] at hforeign
    cases hforeign

/-- So it adds to the world and leaves the ending alone. -/
theorem Settings.around_watch {t : Transport σ} (s : Settings) {inner : Work σ ι} {page : Int}
    {st st' : State σ ι} {ending : Ending (Result σ ι)} (h : inner page st = (ending, st'))
    (hend : ending ≠ .unfinished)
    (ht : ∃ response, (t QuotaSnapshot.request st'.world.machine).1 = .ok response) :
    (s.watch t).around inner page st =
      (ending, { st' with
        world := st'.world.after t (s.probing t st'.world.machine) }) := by
  obtain ⟨snapshot, hcheck⟩ := s.check_watch ht
  exact QuotaWatch.around_of_check h hend hcheck

namespace Client

/-- The results of a client without its watch stage items and do nothing else. -/
theorem stages_unwatched {t : Transport σ} {s : Settings} {fuel : Nat} {call : Call ι}
    {page : Int} {st st' : State σ ι} {r : Result σ ι}
    (h : (unwatched t s).chain.around fuel ((unwatched t s).unit call) page st =
      (.returned r, st')) : r.Stages := by
  have hunit : ((unwatched t s).unit call).Satisfies fun _ _ _ ↦ True :=
    unit_satisfies fun _ _ ↦ trivial
  have hclosed : Runs.Closed (σ := σ) (ι := ι) fun _ _ _ ↦ True := by
    constructor <;> intros <;> trivial
  have hquota (q) (hmem : Layer.quota q ∈ (unwatched t s).chain) :
      q.Keeps (ι := ι) fun _ _ _ ↦ True := by
    simp [unwatched] at hmem
  exact (Chain.satisfies_around hclosed hquota hunit fuel).stages h

/-- A call of a standard client ends as it does without the watch.  A probe follows if it ends
at all. -/
theorem standard_run_of_unwatched {t : Transport σ} {s : Settings} {fuel : Nat} {op : Operation}
    {w w' : World σ} {ending : Ending Answer} {response : Response}
    (h : (unwatched t s).run fuel op w = (ending, w'))
    (ht : (t QuotaSnapshot.request w'.machine).1 = .ok response) :
    (standard t s).run fuel op w = (ending, w'.after t (s.closing response ending)) := by
  rcases hinner : (unwatched t s).chain.around fuel ((unwatched t s).unit op.call) noPage
    { world := w } with ⟨inner, st⟩
  have hstages (r) (hr : inner = .returned r) : r.Stages := stages_unwatched (hr ▸ hinner)
  have hrun := run_eq_of_around_eq hinner hinner rfl rfl hstages
  rw [h] at hrun
  obtain ⟨-, rfl⟩ := Prod.mk.inj hrun
  by_cases hend : ending = .unfinished
  · subst hend
    obtain rfl := eq_unfinished_of_run hinner hstages h
    rw [Settings.closing, World.after_nil]
    exact run_of_unfinished ((s.watch t).around_of_unfinished hinner)
  · have hfinished : inner ≠ .unfinished := by
      rintro rfl
      rw [run_of_unfinished hinner] at h
      exact hend (Prod.mk.inj h).1.symm
    have hwatched : (standard t s).chain.around fuel ((standard t s).unit op.call) noPage _ = _ :=
      s.around_watch hinner hfinished ⟨response, ht⟩
    rw [run_eq_of_around_eq hinner hwatched rfl rfl hstages, h, s.closing_of_ne response hend,
      ← s.probing_of_answered ht]

/-- Over a transport that answers all probes, a call of a standard client is a call without the
watch, and a probe after that. -/
theorem standard_run_eq {t : Transport σ} (ht : t.AnswersProbes) (s : Settings)
    (fuel : Nat) (op : Operation) (w : World σ) :
    (standard t s).run fuel op w =
      match (unwatched t s).run fuel op w with
      | (.unfinished, w') => (.unfinished, w')
      | (ending, w') => (ending, w'.after t (s.probing t w'.machine)) := by
  rcases h : (unwatched t s).run fuel op w with ⟨ending, w'⟩
  obtain ⟨response, hresponse⟩ := ht w'.machine
  rw [standard_run_of_unwatched h hresponse]
  cases ending with
  | unfinished => rw [Settings.closing, World.after_nil]
  | returned _ | raised _ =>
    rw [Settings.closing_of_ne s response (by simp), ← s.probing_of_answered hresponse]

end Client

end PullRelay
