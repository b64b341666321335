import PullRelay.Proofs.Client.Standard
import PullRelay.Proofs.Number.Decimal
import PullRelay.Proofs.Pipeline.Alike

/-!
# Calls are determined by their answers

Without its watch on the quota, a call of a client from settings does the same over every
transport that gives the same answers (`Client.unwatched_run_alike`): it ends in the same
way, after the same events.  All that it requests is its own request for pages whose
numbers can be read (`Call.Asks`), for it finds the number of each further page in a link.
With the watch that is so as well (`Client.standard_run_alike`), since a probe is one more
request, and its answer decides what is logged and whether something is raised.
-/

namespace PullRelay

variable {σ σ₀ ι : Type}

/-- A page that is named by a link has a number that can be read. -/
theorem Headers.isReadable_of_nextPage {h : Headers} {n : Int} (hn : h.nextPage = .ok (some n)) :
    Numeral.IsReadable n := by
  unfold nextPage at hn
  split at hn
  next link _ =>
    unfold Link.page at hn
    cases hquery : Url.query link.address with
    | error fault =>
      rw [hquery] at hn
      cases hn
    | ok query =>
      rw [hquery] at hn
      obtain ⟨text, -, htext⟩ := Option.bind_eq_some_iff.mp (Except.ok.inj hn)
      cases hread : Numeral.readInt text with
      | error fault =>
        rw [hread] at htext
        cases htext
      | ok m =>
        rw [hread] at htext
        cases htext
        exact Numeral.isReadable_of_readInt hread
  · cases hn

namespace Call

/-- A request of the call for a page with a number that can be read. -/
def Asks (call : Call ι) (perPage : Value) (r : Request) : Prop :=
  ∃ page, Numeral.IsReadable page ∧ r = call.request perPage page

theorem isReadable_of_nextPage {call : Call ι} {response : Response} {n : Int}
    (h : call.nextPage response = .ok (some n)) : Numeral.IsReadable n := by
  unfold nextPage at h
  split at h
  · exact Headers.isReadable_of_nextPage h
  · cases h

/-- A unit of work names no page but those with a number that can be read. -/
theorem isReadable_of_outcome {call : Call ι} {room : Room} {answer : Except Failure Response}
    {d : Delivery ι} {next : Int} (h : call.outcome room answer = .returned d)
    (hn : d.next = some next) : Numeral.IsReadable next := by
  obtain ⟨response, -, -, hnext⟩ := outcome_eq_returned h
  rw [hn] at hnext
  exact isReadable_of_nextPage hnext

end Call

/-- No operation asks for the quota. -/
theorem Operation.path_ne_quota_of_asks {op : Operation} {perPage : Value} {r : Request}
    (h : op.call.Asks perPage r) : r.path ≠ QuotaSnapshot.path := by
  obtain ⟨page, -, rfl⟩ := h
  exact op.path_ne_quota

namespace Client

theorem unit_alike (s : Settings) (call : Call ι) :
    Service.Alike (call.Asks (.int s.perPage)) Numeral.IsReadable
      fun _ t ↦ (unwatched t s).unit call := by
  intro σ₀ t₀ page hpage s₀
  let r := call.request (.int s.perPage) page
  refine ⟨⟨call.outcome s.room (t₀ r s₀.world.machine).1, s₀.staged, [.requested r]⟩,
    ⟨?_, fun _ _ ↦ Call.isReadable_of_outcome⟩, fun _ t st hst ↦ ?_⟩
  · intro e he
    obtain rfl := List.mem_singleton.mp he
    exact ⟨page, hpage, rfl⟩
  · have hanswer : (t r st.world.machine).1 = (t₀ r s₀.world.machine).1 :=
      congrArg Exchange.answer (List.cons.inj hst.answers).1
    show (unwatched t s).unit call page st = _
    rw [unit_apply, ← hst.staged]
    show (call.ending s.room (t r st.world.machine).1, _) = _
    rw [hanswer, Call.ending_eq]
    rfl

theorem unwatched_alike (s : Settings) (fuel : Nat) (call : Call ι) :
    Service.Alike (call.Asks (.int s.perPage)) Numeral.IsReadable
      fun _ t ↦ (unwatched t s).chain.around fuel ((unwatched t s).unit call) := by
  have hfirst : Numeral.IsReadable firstPage :=
    Numeral.isReadable_of_lt_pow 1 (by decide) (by decide)
  exact Retry.alike_around (Pagination.alike_around (unit_alike s call) hfirst fuel _) s.retry

/-- A call whose chain takes a course ends in the same way over all transports that give the
same answers along it, with the same room for texts. -/
theorem run_of_taken (clients : ∀ ⦃σ : Type⦄, Transport σ → Client σ) {room : Room}
    (hroom : ∀ ⦃σ : Type⦄ (t : Transport σ), (clients t).room = room) {op : Operation} {fuel : Nat}
    {t₀ : Transport σ₀} {w₀ : World σ₀} {c : Course Item}
    (h : c.TakenBy t₀ { world := w₀ } fun _ t ↦
      (clients t).chain.around fuel ((clients t).unit op.call) noPage) :
    ∃ ending, ∀ ⦃σ : Type⦄ (t : Transport σ) (w : World σ),
      t.exchanges w.machine c.events = t₀.exchanges w₀.machine c.events →
      (clients t).run fuel op w = (ending, w.after t c.events) := by
  have hlike {σ : Type} {t : Transport σ} {w : World σ}
      (h : t.exchanges w.machine c.events = t₀.exchanges w₀.machine c.events) :
      State.Like t₀ { world := w₀ } c.events t ({ world := w } : State σ Item) := ⟨rfl, h⟩
  cases hending : c.ending with
  | returned d =>
    cases he : d.error with
    | none =>
      refine ⟨(Ending.returned (c.staged ++ d.items)).mapExcept (op.shape.conclude room),
        fun σ t w hw ↦ ?_⟩
      rw [← hroom t]
      exact run_of_succeeded (h.eq (hlike hw) hending) he rfl
    | some e => exact ⟨.raised e, fun σ t w hw ↦ run_of_failed (h.eq (hlike hw) hending) he⟩
  | raised f => exact ⟨.raised f, fun σ t w hw ↦ run_of_raised (h.eq (hlike hw) hending)⟩
  | unfinished => exact ⟨.unfinished, fun σ t w hw ↦ run_of_unfinished (h.eq (hlike hw) hending)⟩

theorem isReadable_noPage : Numeral.IsReadable noPage :=
  Numeral.isReadable_of_lt_pow 1 (by decide) (by decide)

/-- Over all transports that give the same answers a call without the watch does the same. -/
theorem unwatched_run_alike (s : Settings) (op : Operation) (fuel : Nat) (t₀ : Transport σ₀)
    (w₀ : World σ₀) :
    ∃ ending events, (∀ e ∈ events, Event.IsQuiet (op.call.Asks (.int s.perPage)) e) ∧
      ∀ ⦃σ : Type⦄ (t : Transport σ) (w : World σ),
        t.exchanges w.machine events = t₀.exchanges w₀.machine events →
        (unwatched t s).run fuel op w = (ending, w.after t events) := by
  obtain ⟨c, hc, htaken⟩ := unwatched_alike s fuel op.call t₀ isReadable_noPage { world := w₀ }
  obtain ⟨ending, hrun⟩ := run_of_taken (fun _ t ↦ unwatched t s) (fun _ _ ↦ rfl) htaken
  exact ⟨ending, c.events, hc.events, hrun⟩

/-- What a watch does at the end of a course depends on the answer to its probe alone. -/
theorem exists_taken_watch (s : Settings) {m : ∀ ⦃σ : Type⦄, Transport σ → Work σ ι} {page : Int}
    {t₀ : Transport σ₀} {s₀ : State σ₀ ι} {c : Course ι} (h : c.TakenBy t₀ s₀ fun _ t ↦ m t page) :
    ∃ c' : Course ι, c'.TakenBy t₀ s₀ fun _ t ↦ (s.watch t).around (m t) page := by
  by_cases hend : c.ending = .unfinished
  · -- What does not end is not checked.
    refine ⟨c, fun σ t st hst ↦ ?_⟩
    have hrun := h.eq hst hend
    rw [Course.outcome, hend]
    exact (s.watch t).around_of_unfinished hrun
  · let outcome := (t₀ QuotaSnapshot.request (t₀.machineAfter s₀.world.machine c.events)).1.bind
      (QuotaSnapshot.ofResponse QuotaSnapshot.coreCategory)
    let notices := QuotaWatch.notices s.rateLimitThreshold outcome
    refine ⟨⟨c.ending.orRaised (QuotaWatch.verdict outcome), c.staged,
      c.events ++ .requested QuotaSnapshot.request :: notices.map .logged⟩, fun σ t st hst ↦ ?_⟩
    -- The first exchange after the course is the probe, and it is the same over both transports.
    have hanswer := congrArg Exchange.answer (List.cons.inj hst.final.answers).1
    have hfetch : (s.watch t).fetch (c.final t st.world).world =
        (outcome, (c.final t st.world).world.after t [.requested QuotaSnapshot.request]) := by
      refine (QuotaSnapshot.fetch_apply t QuotaSnapshot.coreCategory _).trans ?_
      exact congrArg (fun answer ↦ (Except.bind answer _, _)) hanswer
    have hcheck := QuotaWatch.check_eq hfetch t
    have hfinished : c.ending.map Delivery.result ≠ (.unfinished : Ending (Result σ ι)) := by
      cases hending : c.ending <;> simp [hending] at hend ⊢
    refine (QuotaWatch.around_of_check (h t st hst.left) hfinished hcheck).trans ?_
    simp only [Course.outcome, Course.final, World.after_after, List.append_assoc,
      List.singleton_append, Ending.map_orRaised]
    rfl

/-- Over all transports that give the same answers, that to the probe included, a call does the
same. -/
theorem standard_run_alike (s : Settings) (op : Operation) (fuel : Nat) (t₀ : Transport σ₀)
    (w₀ : World σ₀) :
    ∃ ending events, ∀ ⦃σ : Type⦄ (t : Transport σ) (w : World σ),
      t.exchanges w.machine events = t₀.exchanges w₀.machine events →
      (standard t s).run fuel op w = (ending, w.after t events) := by
  obtain ⟨_, -, htaken⟩ := unwatched_alike s fuel op.call t₀ isReadable_noPage { world := w₀ }
  obtain ⟨c, hwatched⟩ := exists_taken_watch s htaken
  obtain ⟨ending, hrun⟩ := run_of_taken (fun _ t ↦ standard t s) (fun _ _ ↦ rfl) hwatched
  exact ⟨ending, c.events, hrun⟩

section First

variable {t : Transport σ} {s : Settings} {op : Operation} {fuel : Nat} {w : World σ}

/-- The request that every call begins with. -/
def firstRequest (s : Settings) (op : Operation) : Request :=
  op.call.request (.int s.perPage) firstPage

/-- How the unit of work ends for the first page. -/
theorem unit_firstPage (t : Transport σ) (s : Settings) (op : Operation) (w : World σ) :
    (unwatched t s).unit op.call firstPage { world := w } =
      (op.call.ending s.room (t (firstRequest s op) w.machine).1,
        { world := w.after t [.requested (firstRequest s op)] }) := unit_apply _ _ _ _

/-- Pages that end at the first one, in a way that is not worth another attempt, end the
chain. -/
theorem around_of_follows {ending : Ending (Result σ Item)} {st : State σ Item}
    (hpages : ∀ atBound further, Pagination.Follows ((unwatched t s).unit op.call) atBound further
      firstPage { world := w } ending st)
    (hstop : ∀ r e, ending = .returned r → r.error = some e → s.retry.accepts e = false) :
    (unwatched t s).chain.around fuel ((unwatched t s).unit op.call) noPage { world := w } =
      (ending, st) := by
  obtain ⟨atBound, further, -, haround⟩ :=
    s.pagination.exists_around_eq fuel ((unwatched t s).unit op.call)
  have hpage : s.pagination.around fuel ((unwatched t s).unit op.call) noPage
      (({ world := w } : State σ Item).cut 0) = (ending, st) :=
    (congrFun (haround noPage) _).trans (hpages atBound further).follow_eq
  show s.retry.around _ noPage { world := w } = _
  rw [Retry.around_apply, Retry.attempt_eq_iff]
  cases ending with
  | returned r => exact .settled hpage fun e he ↦ hstop r e rfl he
  | raised f => exact .raised hpage
  | unfinished => exact .unfinished hpage

/-- What is raised in the place of a first answer ends the call. -/
theorem unwatched_run_of_raised {f : Failure}
    (h : (t (firstRequest s op) w.machine).1 = .error f) :
    (unwatched t s).run fuel op w = (.raised f, w.after t [.requested (firstRequest s op)]) := by
  have hunit := unit_firstPage t s op w
  rw [h] at hunit
  exact run_of_raised (around_of_follows (fun _ _ ↦ .raised hunit) nofun)

/-- A good first answer that names no further page ends the call. -/
theorem unwatched_run_of_last {response : Response} {items : List Item} {answer : Answer}
    (h : (t (firstRequest s op) w.machine).1 = .ok response)
    (hgood : response.error = none ∧ response.status < 404)
    (hread : op.shape.read s.room response.payload = .ok items)
    (hlast : op.call.nextPage response = .ok none)
    (hanswer : op.shape.conclude s.room items = .ok answer) :
    (unwatched t s).run fuel op w =
      (.returned answer, w.after t [.requested (firstRequest s op)]) := by
  have hresult : op.call.result s.room response = .ok
      ({ apply := Action.stage items, status := response.status } : Result σ Item) := by
    rw [Call.result, Call.readPage_of_good (Response.failure?_eq_none_iff.mpr hgood),
      Operation.call_read, hread, hlast]
    rfl
  have hunit := unit_firstPage t s op w
  rw [h, Call.ending, hresult] at hunit
  have hchain : (unwatched t s).chain.around fuel _ noPage { world := w } = _ :=
    around_of_follows (fun _ _ ↦ .settled hunit rfl fun _ ↦ rfl) (by rintro _ e ⟨⟩ ⟨⟩)
  have hconclude : (Ending.returned items).mapExcept (op.shape.conclude s.room) =
      .returned answer := by rw [Ending.mapExcept, hanswer]
  rw [run_of_succeeded hchain rfl Action.stage_nil.symm, List.append_nil]
  exact Prod.ext hconclude rfl

end First

end Client

end PullRelay
