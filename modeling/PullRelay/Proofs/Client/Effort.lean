import PullRelay.Proofs.Listing.Pages
import PullRelay.Proofs.Pipeline.Budgets

/-!
# How much a call does

A server decides which page follows which, and may name further pages without end.  What
bounds a call of a client from settings are its two budgets alone (`Client.run_bounded`):
each attempt makes no more requests than there are pages to be read, each attempt but the
first one follows a pause, and an attempt that reaches the bound on pages is the last one,
because that failure is not worth another attempt.

`Effort` says of events that they are the requests and pauses of a call, and counts them.
It adds up along pages (`Client.effort_of_follows`) and attempts
(`Client.effort_of_attempts`).
-/

namespace PullRelay

variable {σ : Type}

/-- The length of a pause, if the event is one. -/
def Event.pause? : Event → Option Binary64
  | .slept delay => some delay
  | _ => none

/-- The pauses among events, in order. -/
def pausesOf (events : List Event) : List Binary64 := events.filterMap Event.pause?

@[simp] theorem pausesOf_append (xs ys : List Event) :
    pausesOf (xs ++ ys) = pausesOf xs ++ pausesOf ys := List.filterMap_append

/-- All that is done are requests of an operation and pauses of one length, and no more than
so many of each. -/
structure Effort (op : Operation) (delay : Binary64) (requests pauses : Nat)
    (events : List Event) : Prop where
  requested : ∀ r ∈ requestsOf events, r.isOn op.method op.path = true
  others : ∀ e ∈ events, e.request? = none → e = .slept delay
  requests_le : (requestsOf events).length ≤ requests
  pauses_le : (pausesOf events).length ≤ pauses

namespace Effort

variable {op : Operation} {delay : Binary64} {a b a' b' : Nat} {xs ys : List Event}

theorem append (hx : Effort op delay a b xs) (hy : Effort op delay a' b' ys) :
    Effort op delay (a + a') (b + b') (xs ++ ys) where
  requested r hr := by
    rw [requestsOf_append, List.mem_append] at hr
    exact hr.elim (hx.requested r) (hy.requested r)
  others e he := (List.mem_append.mp he).elim (hx.others e) (hy.others e)
  requests_le := by
    rw [requestsOf_append, List.length_append]
    exact Nat.add_le_add hx.requests_le hy.requests_le
  pauses_le := by
    rw [pausesOf_append, List.length_append]
    exact Nat.add_le_add hx.pauses_le hy.pauses_le

theorem mono (h : Effort op delay a b xs) (ha : a ≤ a') (hb : b ≤ b') :
    Effort op delay a' b' xs :=
  ⟨h.requested, h.others, Nat.le_trans h.requests_le ha, Nat.le_trans h.pauses_le hb⟩

/-- One page of an operation. -/
theorem page (op : Operation) (delay : Binary64) (perPage : Value) (page : Int) :
    Effort op delay 1 0 [.requested (op.call.request perPage page)] := by
  constructor <;> simp [requestsOf, pausesOf, Event.request?, Event.pause?]

theorem pause (op : Operation) (delay : Binary64) : Effort op delay 0 1 [.slept delay] := by
  constructor <;> simp [requestsOf, pausesOf, Event.request?, Event.pause?]

end Effort

namespace Client

section

variable {t : Transport σ} {s : Settings} {op : Operation}

/-! ## Pages and attempts -/

/-- A unit of work ends, after its request. -/
theorem world_of_unit {page : Int} {st st' : State σ Item} {ending : Ending (Result σ Item)}
    (h : (unwatched t s).unit op.call page st = (ending, st')) :
    ending ≠ .unfinished ∧
      st'.world = st.world.after t [.requested (op.call.request (.int s.perPage) page)] := by
  rw [unit_apply] at h
  obtain ⟨rfl, rfl⟩ := Prod.mk.inj h
  refine ⟨?_, rfl⟩
  unfold Call.ending
  repeat' split
  all_goals simp

/-- Staging its items adds nothing to that. -/
theorem world_of_applied {page : Int} {st st₁ st₂ : State σ Item} {r : Result σ Item}
    {ending : Ending Unit} (h : (unwatched t s).unit op.call page st = (.returned r, st₁))
    (ha : r.apply st₁ = (ending, st₂)) :
    ending = .returned () ∧
      st₂.world = st.world.after t [.requested (op.call.request (.int s.perPage) page)] := by
  rw [← (world_of_unit h).2]
  rw [unit_apply] at h
  obtain ⟨response, -, hresult⟩ := Call.ending_eq_returned (Prod.mk.inj h).1
  exact (Call.stages_of_result hresult).world_eq ha

/-- Only the pages of a list name further ones. -/
theorem isPaginated_of_cursor? {page next : Int} {st st₁ : State σ Item} {r : Result σ Item}
    (h : (unwatched t s).unit op.call page st = (.returned r, st₁)) (hn : r.cursor? = some next) :
    op.isPaginated = true := by
  rw [unit_apply] at h
  obtain ⟨response, -, hresult⟩ := Call.ending_eq_returned (Prod.mk.inj h).1
  obtain ⟨items, error, next?, -, hnext, rfl⟩ := Call.result_eq_ok hresult
  unfold Call.nextPage at hnext
  split at hnext
  next hpaginated => exact hpaginated
  · cases hnext
    cases hn

/-- The pages that a call can read, if so many may follow the first one. -/
def pagesOf (op : Operation) (further : Nat) : Nat := if op.isPaginated then further + 1 else 1

theorem one_le_pagesOf (op : Operation) (further : Nat) : 1 ≤ pagesOf op further := by
  unfold pagesOf
  split <;> omega

/-- The pages of a call are requests, and come to an end at a bound. -/
theorem effort_of_follows {further : Nat} {page : Int} {st st' : State σ Item}
    {ending : Ending (Result σ Item)} (delay : Binary64)
    (h : Pagination.Follows ((unwatched t s).unit op.call) s.atBound further page st ending st')
    (hm : s.maxPages ≠ none) :
    ending ≠ .unfinished ∧ ∃ events, st'.world = st.world.after t events ∧
      Effort op delay (pagesOf op further) 0 events := by
  have hpage (further : Nat) (page : Int) := (Effort.page op delay (.int s.perPage) page).mono
    (one_le_pagesOf op further) (Nat.le_refl 0)
  induction h with
  | @raised further page _ _ _ h => exact ⟨by simp, _, (world_of_unit h).2, hpage further page⟩
  | unfinished h => exact absurd rfl (world_of_unit h).1
  | applyRaised h ha => cases (world_of_applied h ha).1
  | applyUnfinished h ha => cases (world_of_applied h ha).1
  | @settled further page _ _ _ _ h ha _ =>
    exact ⟨by simp, _, (world_of_applied h ha).2, hpage further page⟩
  | @bound page _ _ _ _ r _ _ h ha he hn hb =>
    obtain ⟨m, hm⟩ := Option.ne_none_iff_exists'.mp hm
    rw [Settings.atBound, hm] at hb
    obtain ⟨rfl, rfl⟩ := Prod.mk.inj hb
    exact ⟨by simp, _, (world_of_applied h ha).2, hpage 0 page⟩
  | @more further page _ _ _ _ _ _ _ h ha he hn _ ih =>
    obtain ⟨hend, events, hworld, heffort⟩ := ih
    have hone := Effort.page op delay (.int s.perPage) page
    refine ⟨hend, _, ?_, (hone.append heffort).mono ?_ (Nat.le_refl _)⟩
    · rw [hworld, (world_of_applied h ha).2, World.after_after]
    · simp only [pagesOf, isPaginated_of_cursor? h hn, if_true]
      omega

/-- So many pages are so many requests. -/
theorem world_of_ahead? {k : Nat} {page : Int} {st : State σ Item} {x : Int × State σ Item}
    (h : Pagination.ahead? ((unwatched t s).unit op.call) k page st = some x) :
    ∃ requests : List Request, requests.length = k ∧
      x.2.world = st.world.after t (requests.map .requested) := by
  induction k generalizing page st with
  | zero =>
    obtain rfl := Option.some.inj h
    exact ⟨[], rfl, World.after_nil.symm⟩
  | succ k ih =>
    obtain ⟨y, hy, hx⟩ := Option.bind_eq_some_iff.mp h
    obtain ⟨r, st₁, hunit, ha, -⟩ := Pagination.next?_eq_some_iff.mp hy
    obtain ⟨requests, hlength, hworld⟩ := ih hx
    refine ⟨op.call.request (.int s.perPage) page :: requests, congrArg (· + 1) hlength, ?_⟩
    rw [hworld, (world_of_applied hunit ha).2, World.after_after]
    rfl

/-- The attempts of a call are its pages with pauses between them. -/
theorem effort_of_attempts {r : Retry} {inner : Work σ Item} {requests : Nat}
    (hinner : ∀ ⦃page st ending st'⦄, inner page st = (ending, st') → ending ≠ .unfinished ∧
      ∃ events, st'.world = st.world.after t events ∧ Effort op r.delay requests 0 events)
    {page : Int} {savepoint further : Nat} {errors : List Failure} {st st' : State σ Item}
    {ending : Ending (Result σ Item)}
    (h : r.Attempts inner page savepoint further errors st ending st') :
    ending ≠ .unfinished ∧ ∃ events, st'.world = st.world.after t events ∧
      Effort op r.delay ((further + 1) * requests) further events := by
  have hone (further : Nat) : requests ≤ (further + 1) * requests :=
    Nat.le_mul_of_pos_left _ (Nat.succ_pos _)
  induction h with
  | raised h =>
    obtain ⟨hend, events, hworld, heffort⟩ := hinner h
    exact ⟨hend, events, hworld, heffort.mono (hone _) (Nat.zero_le _)⟩
  | unfinished h => exact absurd rfl (hinner h).1
  | settled h _ =>
    obtain ⟨hend, events, hworld, heffort⟩ := hinner h
    exact ⟨hend, events, hworld, heffort.mono (hone _) (Nat.zero_le _)⟩
  | exhausted h _ _ =>
    obtain ⟨-, events, hworld, heffort⟩ := hinner h
    exact ⟨by simp, events, hworld, heffort.mono (hone _) (Nat.zero_le _)⟩
  | @again further _ _ _ _ _ _ _ h _ _ _ ih =>
    obtain ⟨-, events, hworld, heffort⟩ := hinner h
    obtain ⟨hend, later, hlater, hefforts⟩ := ih
    refine ⟨hend, events ++ .slept r.delay :: later, ?_, ?_⟩
    · rw [hlater, State.world_record, World.record_eq_after (t := t) rfl, hworld,
        State.world_cut, World.after_after, World.after_after]
      rfl
    · refine (heffort.append ((Effort.pause op r.delay).append hefforts)).mono ?_ ?_
      · exact Nat.le_of_eq (by rw [Nat.succ_mul (further + 1), Nat.zero_add, Nat.add_comm])
      · omega

end

/-! ## How far a call gets -/

section

variable (t : Transport σ) (s : Settings) (fuel : Nat) (op : Operation) (w : World σ)

/-- The state in which an attempt of a call starts after so many others, if those failed in a
way that makes it worth making. -/
def attempt? (n : Nat) : Option (State σ Item) :=
  s.retry.start? (s.pagination.around fuel ((unwatched t s).unit op.call)) noPage 0 n { world := w }

/-- The page that follows so many in an attempt of a call, and the state in which it would be
asked for. -/
def page? (n k : Nat) : Option (Int × State σ Item) :=
  (attempt? t s fuel op w n).bind fun st ↦
    Pagination.ahead? ((unwatched t s).unit op.call) k firstPage (st.cut 0)

/-- A call makes all its attempts, and another one would be worth making. -/
def UsesUp : Prop := (attempt? t s fuel op w s.retry.attempts).isSome = true

/-- Some attempt of a call reads so many pages, and the last of them names a further one. -/
def GoesPast (m : Nat) : Prop := ∃ n < s.retry.attempts, (page? t s fuel op w n m).isSome = true

instance : Decidable (UsesUp t s fuel op w) := inferInstanceAs (Decidable (_ = true))

instance (m : Nat) : Decidable (GoesPast t s fuel op w m) :=
  inferInstanceAs (Decidable (∃ n < _, _ = true))

end

variable {t : Transport σ} {s : Settings} {fuel : Nat} {op : Operation} {w : World σ}

/-- Without its watch a call is a retry of its pages, from an empty buffer. -/
theorem around_unwatched (t : Transport σ) (s : Settings) (fuel : Nat) (op : Operation)
    (w : World σ) :
    (unwatched t s).chain.around fuel ((unwatched t s).unit op.call) noPage { world := w } =
      s.retry.attempt (s.pagination.around fuel ((unwatched t s).unit op.call)) noPage 0
        s.retry.further [] { world := w } := rfl

/-- An attempt that goes past the pages that may be read ends the call, with the bound or for
want of fuel. -/
theorem around_of_page? {n k : Nat} (hn : n < s.retry.attempts) (hk : k = s.furtherPages fuel + 1)
    {x : Int × State σ Item} (h : page? t s fuel op w n k = some x) :
    ∃ ending : Ending (Result σ Item),
      (unwatched t s).chain.around fuel ((unwatched t s).unit op.call) noPage { world := w } =
        (ending, x.2) ∧
      match s.maxPages with
      | some m => ∃ r, ending = .returned r ∧ r.error = some (.pageLimit (.int m))
      | none => ending = .unfinished := by
  subst hk
  obtain ⟨st, hst, hahead⟩ := Option.bind_eq_some_iff.mp h
  obtain ⟨result, hfollow⟩ := Pagination.follow_of_ahead? hahead s.atBound
  obtain ⟨later, hlater⟩ := Nat.exists_eq_add_of_le' (Nat.le_of_lt_succ hn)
  obtain ⟨errors, hattempt⟩ := Retry.attempt_of_start? (k := later) hst []
  have hpages : s.pagination.around fuel ((unwatched t s).unit op.call) noPage (st.cut 0) =
      s.atBound result x.2 := by rw [Settings.pagination_around, hfollow]
  rw [around_unwatched, hlater, hattempt]
  unfold Settings.atBound at hpages
  cases hm : s.maxPages with
  | some m =>
    rw [hm] at hpages
    refine ⟨.returned (result.settled.failing (.pageLimit (.int m))), ?_, _, rfl, rfl⟩
    refine Retry.Attempts.attempt_eq (.settled hpages ?_)
    rintro e ⟨⟩
    rfl
  | none =>
    rw [hm] at hpages
    exact ⟨.unfinished, Retry.Attempts.attempt_eq (.unfinished hpages), rfl⟩

/-! ## Whole calls -/

/-- With a bound on pages a call comes to an end, after so many requests and pauses at most. -/
theorem effort_of_around {ending : Ending (Result σ Item)} {st : State σ Item}
    (h : (unwatched t s).chain.around fuel ((unwatched t s).unit op.call) noPage { world := w } =
      (ending, st)) (hm : s.maxPages ≠ none) :
    ending ≠ .unfinished ∧ ∃ events, st.world = w.after t events ∧
      Effort op s.retryDelay (s.retry.attempts * pagesOf op (s.furtherPages fuel))
        s.retry.further events := by
  rw [around_unwatched, Retry.attempt_eq_iff] at h
  refine effort_of_attempts (r := s.retry) (fun page st ending st' hpages ↦ ?_) h
  rw [Settings.pagination_around, Pagination.follow_eq_iff] at hpages
  exact effort_of_follows s.retryDelay hpages hm

/-- A call of a client from settings ends if it does without its watch, and a probe is all
that follows. -/
theorem standard_run_of_around {ending : Ending (Result σ Item)} {st : State σ Item}
    (h : (unwatched t s).chain.around fuel ((unwatched t s).unit op.call) noPage { world := w } =
      (ending, st)) (hend : ending ≠ .unfinished) :
    ((standard t s).run fuel op w).1 ≠ .unfinished ∧
    ∃ notices : List Log.Notice, ((standard t s).run fuel op w).2 =
      st.world.after t (.requested QuotaSnapshot.request :: notices.map .logged) := by
  have hfetch : (s.watch t).fetch st.world = _ :=
    QuotaSnapshot.fetch_apply t QuotaSnapshot.coreCategory st.world
  have hcheck := QuotaWatch.check_eq hfetch t
  rw [World.after_after] at hcheck
  generalize QuotaWatch.verdict _ = answer at hcheck
  have hchain : (standard t s).chain.around fuel ((standard t s).unit op.call) noPage _ = _ :=
    QuotaWatch.around_of_check h hend hcheck
  have hstages (r) (hr : ending.orRaised answer = .returned r) : r.Stages := by
    cases answer with
    | ok _ =>
      obtain rfl : ending = .returned r := hr
      exact stages_unwatched h
    | error f => cases hr
  have hrun := run_eq_of_around_eq hchain hchain rfl rfl hstages
  refine ⟨fun hunfinished ↦ ?_, _, congrArg Prod.snd hrun⟩
  have hstop := eq_unfinished_of_run hchain hstages (Prod.ext hunfinished rfl)
  cases answer with
  | ok _ => exact hend hstop
  | error f => cases hstop

/-- So a call with a bound on pages ends. -/
theorem standard_run_finishes (t : Transport σ) (hm : s.maxPages ≠ none) (fuel : Nat)
    (op : Operation) (w : World σ) : ((standard t s).run fuel op w).1 ≠ .unfinished := by
  rcases h : (unwatched t s).chain.around fuel ((unwatched t s).unit op.call) noPage
    { world := w } with ⟨ending, st⟩
  exact (standard_run_of_around h (effort_of_around h hm).1).1

/-- A call with a bound on pages ends, whatever the server answers.  It makes no more requests
than its attempts can read pages, pauses for the time that is configured between two attempts,
and asks for the quota once at the end.  An attempt that reaches the bound, which is that its
last page names a further one, is the last thing that the call does. -/
theorem run_bounded {c : Client σ} (hc : Client.ofSettings t s = .ok c) {M : Nat}
    (hM : s.maxPages = some M) (op : Operation) (fuel : Nat) (w : World σ) :
    (c.run fuel op w).1 ≠ .unfinished ∧
    ∃ (events : List Event) (notices : List Log.Notice),
      (c.run fuel op w).2 =
        w.after t (events ++ .requested QuotaSnapshot.request :: notices.map .logged) ∧
      (∀ r ∈ requestsOf events, r.isOn op.method op.path = true ∧ r.path ≠ QuotaSnapshot.path) ∧
      (∀ e ∈ events, e.request? = none → e = .slept s.retryDelay) ∧
      ((requestsOf events).length : Int) ≤
        max 1 s.retryAttempts * (if op.isPaginated then M else 1) ∧
      ((pausesOf events).length : Int) ≤ max 1 s.retryAttempts - 1 ∧
      ∀ n < s.retry.attempts, ∀ st, attempt? t s fuel op w n = some st →
        (page? t s fuel op w n M).isSome = true →
        ∃ last : List Request, last.length = M ∧
          w.after t events = st.world.after t (last.map .requested) := by
  obtain ⟨-, hbound, rfl⟩ := Client.ofSettings_eq_ok_iff.mp hc
  have hfurther : M = s.furtherPages fuel + 1 := by
    have hpos : M ≠ 0 := by
      rintro rfl
      exact hbound hM
    simp only [Settings.furtherPages, hM]
    omega
  have hattempts : (s.retry.attempts : Int) = max 1 s.retryAttempts :=
    Retry.attempts_ofAttempts ..
  rcases hrun : (unwatched t s).chain.around fuel ((unwatched t s).unit op.call) noPage
    { world := w } with ⟨ending, st⟩
  obtain ⟨hend, events, hworld, heffort⟩ := effort_of_around hrun (hM ▸ Option.some_ne_none M)
  obtain ⟨hends, notices, hprobe⟩ := standard_run_of_around hrun hend
  refine ⟨hends, events, notices, ?_, fun r hr ↦ ?_, heffort.others, ?_, ?_, ?_⟩
  · rw [hprobe, hworld, World.after_after]
  · have hon := heffort.requested r hr
    rw [Request.isOn_eq_true_iff] at hon
    exact ⟨heffort.requested r hr, hon.2 ▸ op.path_ne_quota⟩
  · have hcount := heffort.requests_le
    rw [pagesOf, ← hfurther] at hcount
    rw [← hattempts]
    exact_mod_cast hcount
  · have hcount := heffort.pauses_le
    rw [← hattempts, Retry.attempts]
    omega
  · intro n hn st₀ hst hpage
    obtain ⟨x, hx⟩ := Option.isSome_iff_exists.mp hpage
    obtain ⟨ending', haround, -⟩ := around_of_page? hn hfurther hx
    obtain ⟨st', hst', hahead⟩ := Option.bind_eq_some_iff.mp hx
    obtain rfl := Option.some.inj (hst.symm.trans hst')
    obtain ⟨last, hlength, hlast⟩ := world_of_ahead? hahead
    obtain ⟨-, rfl⟩ := Prod.mk.inj (hrun.symm.trans haround)
    exact ⟨last, hlength, hworld.symm.trans hlast⟩

end Client

/-- A server that names the second page in each of its answers. -/
def Transport.endless : Transport Nat := fun _ n ↦
  (.ok
    { status := 200
      headers := [("Link", .text "<https://api.github.com/comments?page=2>; rel=\"next\"")]
      payload := .list [.object [("id", .int n)]] }, n + 1)

/-- Settings for three attempts of three pages each. -/
def Settings.threePages : Settings := { retryAttempts := 3, maxPages := some 3 }

/-- The first attempt reaches the bound, and no other one is made. -/
theorem Client.endless_run_bounded :
    ∃ (events : List Event) (notices : List Log.Notice),
      ((Client.standard .endless .threePages).run 0 (.issueComments ⟨"o", "r", 1⟩)
          { machine := 0 }).2 =
        World.after .endless { machine := 0 }
          (events ++ .requested QuotaSnapshot.request :: notices.map .logged) ∧
      (requestsOf events).length ≤ 9 ∧
      ∃ last : List Request, last.length = 3 ∧
        World.after .endless { machine := 0 } events =
          World.after .endless { machine := 0 } (last.map .requested) := by
  have hc : Client.ofSettings .endless .threePages = .ok (Client.standard .endless .threePages) :=
    Client.ofSettings_eq_ok_iff.mpr ⟨by decide, by decide, rfl⟩
  obtain ⟨-, events, notices, hrun, -, -, hcount, -, hlast⟩ :=
    Client.run_bounded hc rfl (.issueComments ⟨"o", "r", 1⟩) 0 { machine := 0 }
  have hcount' : ((requestsOf events).length : Int) ≤ 9 := hcount
  exact ⟨events, notices, hrun, by omega, hlast 0 (by decide) _ rfl (by decide +kernel)⟩

end PullRelay
