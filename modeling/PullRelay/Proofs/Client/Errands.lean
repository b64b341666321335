import PullRelay.Proofs.Client.Effort
import PullRelay.Proofs.Client.QuotaIndependence

/-!
# Errands in any order

A client goes on errands one after the other, over one script.  An errand takes its answers
from its own route, and asks for the quota at the end.  If the quota is always there, because
the first entry on its route persists and is meant for any page, errands on different routes
have nothing to do with one another: however they are mixed, each of them goes as it would if
there were no others (`Client.errands_filter`).
-/

namespace PullRelay

/-! ## Errands -/

namespace Ending

variable {α β : Type}

/-- The ending of a computation that always ends. -/
def ofExcept : Except Failure α → Ending α
  | .ok a => .returned a
  | .error f => .raised f

theorem ofExcept_ne_unfinished (r : Except Failure α) : ofExcept r ≠ .unfinished := by
  cases r <;> simp [ofExcept]

theorem map_ne_unfinished {ending : Ending α} (h : ending ≠ .unfinished) (f : α → β) :
    ending.map f ≠ .unfinished := by
  cases ending with
  | unfinished => exact absurd rfl h
  | returned _ | raised _ => simp

end Ending

/-- What a client can be sent for. -/
inductive Errand where
  | operation (op : Operation)
  | quota

/-- An errand, how it ended, and what was done on the way. -/
structure Errand.Report where
  errand : Errand
  ending : Ending (Answer ⊕ QuotaSnapshot)
  events : List Event

namespace Errand

/-- The method of its requests. -/
def method : Errand → String
  | operation op => op.method
  | quota => QuotaSnapshot.request.method

/-- The path of its requests. -/
def path : Errand → String
  | operation op => op.path
  | quota => QuotaSnapshot.request.path

/-- The errand is on this route. -/
def isOn (method path : String) (x : Errand) : Bool := x.method == method && x.path == path

end Errand

namespace Client

variable {σ : Type}

/-- Go on an errand. -/
def errand (fuel : Nat) (c : Client σ) (x : Errand) (w : World σ) :
    Ending (Answer ⊕ QuotaSnapshot) × World σ :=
  match x with
  | .operation op => ((c.run fuel op w).1.map .inl, (c.run fuel op w).2)
  | .quota => ((Ending.ofExcept (c.quota w).1).map .inr, (c.quota w).2)

/-- Go on errands in order, and report on each of them. -/
def errands (fuel : Nat) (c : Client σ) : List Errand → σ → List Errand.Report × σ
  | [], m => ([], m)
  | x :: xs, m =>
    let done := c.errand fuel x { machine := m }
    let rest := errands fuel c xs done.2.machine
    (⟨x, done.1, done.2.trace⟩ :: rest.1, rest.2)

end Client

/-! ## Scripts in which the quota is always there -/

namespace Routes

/-- The first entry on the route of the quota is this one, which is there for every probe. -/
structure Reports (e : RouteEntry) (m : Routes) : Prop where
  queue : (m.queue "GET" QuotaSnapshot.path).head? = some e
  persist : e.persist = true
  page : e.page = .null

namespace Reports

variable {e : RouteEntry} {m : Routes}

/-- A probe finds it, and leaves the script as it was. -/
theorem transport_eq (h : m.Reports e) :
    transport QuotaSnapshot.request m = (.ok e.response, m.asked QuotaSnapshot.request) := by
  obtain ⟨rest, hqueue⟩ := List.head?_eq_some_iff.mp h.queue
  have hpage : pageOf QuotaSnapshot.request.params = .ok none := rfl
  have hserves : e.serves "GET" QuotaSnapshot.path none = true := by
    have hmem : e ∈ m.queue "GET" QuotaSnapshot.path := hqueue ▸ List.mem_cons_self
    rw [RouteEntry.serves, (List.mem_filter.mp hmem).2, RouteEntry.servesPage, h.page]
    rfl
  obtain ⟨entries, htake, -⟩ := take?_of_queue hqueue hserves
  obtain ⟨_, _, -, -, -, hentries⟩ := exists_append_of_take? htake
  rw [if_pos h.persist] at hentries
  subst hentries
  have hupper : Text.upper QuotaSnapshot.request.method = "GET" := by decide +kernel
  have hfound : take? (RouteEntry.serves "GET" QuotaSnapshot.request.path none) m.entries =
      some (e, m.entries) := htake
  rw [transport_of_page hpage, hupper, hfound]
  rfl

/-- A script on record for a request has the same entries. -/
theorem asked (h : m.Reports e) (r : Request) : (m.asked r).Reports e :=
  ⟨h.queue, h.persist, h.page⟩

/-- Requests with other paths leave it there. -/
theorem machineAfter (h : m.Reports e) {events : List Event}
    (hquiet : ∀ x ∈ events, Event.IsQuiet (·.path ≠ QuotaSnapshot.path) x) :
    (transport.machineAfter m events).Reports e := by
  refine ⟨?_, h.persist, h.page⟩
  rw [queue_machineAfter "GET" hquiet]
  exact h.queue

/-- All that the end of a call does is to find it. -/
theorem machineAfter_closing (h : m.Reports e) (s : Settings) {ending : Ending Answer}
    (hend : ending ≠ .unfinished) :
    transport.machineAfter m (s.closing e.response ending) = m.asked QuotaSnapshot.request := by
  rw [s.closing_of_ne e.response hend,
    ← s.probing_of_answered (congrArg Prod.fst h.transport_eq), s.machineAfter_probing,
    h.transport_eq]

/-- So does a client that is sent for the quota. -/
theorem quota_eq (h : m.Reports e) (s : Settings) :
    (Client.standard transport s).quota { machine := m } =
      (QuotaSnapshot.ofResponse QuotaSnapshot.coreCategory e.response,
        World.after transport { machine := m } [.requested QuotaSnapshot.request]) := by
  refine (QuotaSnapshot.fetch_apply transport QuotaSnapshot.coreCategory _).trans ?_
  rw [h.transport_eq]
  rfl

end Reports

/-- Scripts with one queue for a route answer requests on it alike. -/
theorem respects_queue (method path : String) :
    transport.Respects (fun m₁ m₂ ↦ m₁.queue method path = m₂.queue method path)
      (fun r ↦ Text.upper r.method = method ∧ r.path = path) where
  answer := by
    rintro r m₁ m₂ ⟨rfl, rfl⟩ h
    exact (transport_congr h).1
  machine := by
    rintro r m₁ m₂ ⟨rfl, rfl⟩ h
    exact (transport_congr h).2

end Routes

/-! ## Errands on their routes -/

/-- The requests of an operation are on its route. -/
theorem Operation.isOn_of_asks {op : Operation} {perPage : Value} {r : Request}
    (h : op.call.Asks perPage r) : Text.upper r.method = op.method ∧ r.path = op.path := by
  obtain ⟨page, -, rfl⟩ := h
  exact ⟨op.upper_method, rfl⟩

namespace Client

/-- An operation goes the same way over all scripts that have the same on its route. -/
theorem standard_run_of_reports {s : Settings} (hm : s.maxPages ≠ none) (fuel : Nat)
    (op : Operation) {e : RouteEntry} {m₀ : Routes} (h₀ : m₀.Reports e) :
    ∃ ending events, ending ≠ .unfinished ∧
      (∀ e ∈ events,
        Event.IsQuiet (fun r ↦ Text.upper r.method = op.method ∧ r.path = op.path) e) ∧
      ∀ m : Routes, m.Reports e → m.queue op.method op.path = m₀.queue op.method op.path →
        (standard Routes.transport s).run fuel op { machine := m } =
          (ending, World.after Routes.transport { machine := m }
            (events ++ s.closing e.response ending)) ∧
        (Routes.transport.machineAfter m events).Reports e := by
  obtain ⟨ending, events, hquiet, hrun⟩ := run_of_respects (s := s)
    (Routes.respects_queue op.method op.path) (fun _ ↦ Operation.isOn_of_asks) fuel
    { machine := m₀ }
  have hother (x) (hx : x ∈ events) : Event.IsQuiet (·.path ≠ QuotaSnapshot.path) x :=
    (hquiet x hx).mono fun r hr ↦ hr.2 ▸ op.path_ne_quota
  have hwhole (m : Routes) (h : m.Reports e)
      (hqueue : m.queue op.method op.path = m₀.queue op.method op.path) :
      (standard Routes.transport s).run fuel op { machine := m } =
        (ending, World.after Routes.transport { machine := m }
          (events ++ s.closing e.response ending)) := by
    have hprobe := congrArg Prod.fst (h.machineAfter hother).transport_eq
    rw [standard_run_of_unwatched (hrun { machine := m } hqueue.symm) hprobe, World.after_after]
  refine ⟨ending, events, fun hend ↦ ?_, hquiet,
    fun m h hqueue ↦ ⟨hwhole m h hqueue, h.machineAfter hother⟩⟩
  exact standard_run_finishes _ hm fuel op { machine := m₀ }
    ((congrArg Prod.fst (hwhole m₀ h₀ rfl)).trans hend)

/-- An errand goes the same way over all scripts that have the same on its route, and leaves the
same there.  It leaves all other routes alone. -/
theorem errand_eq {s : Settings} (hm : s.maxPages ≠ none) (fuel : Nat) {e : RouteEntry}
    {m₀ : Routes} (h₀ : m₀.Reports e) (x : Errand) :
    ∃ ending events, ending ≠ .unfinished ∧ ∀ m : Routes, m.Reports e →
      m.queue x.method x.path = m₀.queue x.method x.path →
      (standard Routes.transport s).errand fuel x { machine := m } =
        (ending, World.after Routes.transport { machine := m } events) ∧
      (Routes.transport.machineAfter m events).Reports e ∧
      (Routes.transport.machineAfter m events).queue x.method x.path =
        (Routes.transport.machineAfter m₀ events).queue x.method x.path ∧
      ∀ method path, x.isOn method path = false →
        (Routes.transport.machineAfter m events).queue method path = m.queue method path := by
  cases x with
  | operation op =>
    obtain ⟨ending, events, hend, hquiet, hrun⟩ := standard_run_of_reports hm fuel op h₀
    have hafter (m : Routes) (h : m.Reports e)
        (hqueue : m.queue op.method op.path = m₀.queue op.method op.path) :
        Routes.transport.machineAfter m (events ++ s.closing e.response ending) =
          (Routes.transport.machineAfter m events).asked QuotaSnapshot.request := by
      rw [Transport.machineAfter_append, (hrun m h hqueue).2.machineAfter_closing s hend]
    refine ⟨ending.map .inl, events ++ s.closing e.response ending,
      Ending.map_ne_unfinished hend _, fun m h hqueue ↦ ?_⟩
    rw [hafter m h hqueue, hafter m₀ h₀ rfl]
    refine ⟨?_, (hrun m h hqueue).2.asked _, ?_, fun method path hother ↦ ?_⟩
    · rw [errand, (hrun m h hqueue).1]
    · exact (Routes.respects_queue op.method op.path).machineAfter hqueue hquiet
    · refine Routes.queue_machineAfter_of_ne (fun y hy ↦ (hquiet y hy).mono ?_) m
      rintro r ⟨hmethod, hpath⟩ ⟨rfl, rfl⟩
      simp [Errand.isOn, Errand.method, Errand.path, hmethod, hpath] at hother
  | quota =>
    have hafter (m : Routes) (h : m.Reports e) :
        Routes.transport.machineAfter m [.requested QuotaSnapshot.request] =
          m.asked QuotaSnapshot.request := congrArg Prod.snd h.transport_eq
    refine ⟨(Ending.ofExcept
        (QuotaSnapshot.ofResponse QuotaSnapshot.coreCategory e.response)).map .inr,
      [.requested QuotaSnapshot.request],
      Ending.map_ne_unfinished (Ending.ofExcept_ne_unfinished _) _, fun m h hqueue ↦ ?_⟩
    rw [hafter m h, hafter m₀ h₀, errand, h.quota_eq]
    exact ⟨rfl, h.asked _, hqueue, fun _ _ _ ↦ rfl⟩

/-- The first of many errands, and those after it. -/
theorem errands_cons {c : Client σ} {t : Transport σ} {fuel : Nat} {x : Errand} {m : σ}
    {ending : Ending (Answer ⊕ QuotaSnapshot)} {events : List Event}
    (h : c.errand fuel x { machine := m } = (ending, World.after t { machine := m } events))
    (xs : List Errand) :
    c.errands fuel (x :: xs) m =
      (⟨x, ending, events⟩ :: (c.errands fuel xs (t.machineAfter m events)).1,
        (c.errands fuel xs (t.machineAfter m events)).2) := by
  rw [errands, h]
  rfl

/-- What becomes of a route in many errands is what becomes of it in those on the route. -/
theorem errands_filter {s : Settings} (hm : s.maxPages ≠ none) (fuel : Nat) {e : RouteEntry}
    (method path : String) (xs : List Errand) {m m' : Routes} (h : m.Reports e)
    (h' : m'.Reports e) (hqueue : m.queue method path = m'.queue method path) :
    ((standard Routes.transport s).errands fuel xs m).1.filter (·.errand.isOn method path) =
      ((standard Routes.transport s).errands fuel (xs.filter (·.isOn method path)) m').1 ∧
    ((standard Routes.transport s).errands fuel xs m).2.queue method path =
      ((standard Routes.transport s).errands fuel (xs.filter (·.isOn method path)) m').2.queue
        method path := by
  induction xs generalizing m m' with
  | nil => exact ⟨rfl, hqueue⟩
  | cons x xs ih =>
    by_cases hon : x.isOn method path = true
    · -- Both go on the errand, and find the same on its route.
      obtain ⟨rfl, rfl⟩ : x.method = method ∧ x.path = path := by simpa [Errand.isOn] using hon
      obtain ⟨ending, events, -, hgo⟩ := errand_eq hm fuel h' x
      obtain ⟨hrun, hreports, hsame, -⟩ := hgo m h hqueue
      obtain ⟨hrun', hreports', -⟩ := hgo m' h' rfl
      obtain ⟨hreport, hleft⟩ := ih hreports hreports' hsame
      rw [List.filter_cons_of_pos hon, errands_cons hrun, errands_cons hrun']
      refine ⟨(List.filter_cons_of_pos ?_).trans (congrArg (_ :: ·) hreport), hleft⟩
      exact hon
    · -- Only one of them goes, and that changes nothing on the route.
      obtain ⟨ending, events, -, hgo⟩ := errand_eq hm fuel h x
      obtain ⟨hrun, hreports, -, hother⟩ := hgo m h rfl
      have hroute := (hother method path (Bool.eq_false_iff.mpr hon)).trans hqueue
      obtain ⟨hreport, hleft⟩ := ih hreports h' hroute
      rw [List.filter_cons_of_neg hon, errands_cons hrun]
      refine ⟨(List.filter_cons_of_neg ?_).trans hreport, hleft⟩
      exact hon

/-- All errands come to an end. -/
theorem errands_finish {s : Settings} (hm : s.maxPages ≠ none) (fuel : Nat) {e : RouteEntry}
    (xs : List Errand) {m : Routes} (h : m.Reports e) :
    ∀ report ∈ ((standard Routes.transport s).errands fuel xs m).1,
      report.ending ≠ .unfinished := by
  induction xs generalizing m with
  | nil => simp [errands]
  | cons x xs ih =>
    obtain ⟨ending, events, hend, hgo⟩ := errand_eq hm fuel h x
    obtain ⟨hrun, hreports, -⟩ := hgo m h rfl
    rw [errands_cons hrun]
    exact List.forall_mem_cons.mpr ⟨hend, ih hreports⟩

/-- Errands may change places with those on other routes, as long as the script begins, on the
route of the quota, with an entry for any page that persists.  Whatever the order between the
routes, each errand ends in the same way after the same requests, pauses and remarks, and what is
left of the script is the same on each route. -/
theorem errands_commute {s : Settings} {c : Client Routes}
    (hc : Client.ofSettings Routes.transport s = .ok c) (hm : s.maxPages ≠ none) (fuel : Nat)
    {m : Routes} {e : RouteEntry} {rest : List RouteEntry}
    (hqueue : m.queue "GET" "/rate_limit" = e :: rest) (hpersist : e.persist = true)
    (hpage : e.page = .null) {xs ys : List Errand}
    (hsame : ∀ method path,
      xs.filter (·.isOn method path) = ys.filter (·.isOn method path)) :
    (∀ report ∈ (c.errands fuel xs m).1, report.ending ≠ .unfinished) ∧
    ∀ method path,
      (c.errands fuel xs m).1.filter (·.errand.isOn method path) =
        (c.errands fuel ys m).1.filter (·.errand.isOn method path) ∧
      (c.errands fuel xs m).2.queue method path = (c.errands fuel ys m).2.queue method path := by
  obtain ⟨-, -, rfl⟩ := Client.ofSettings_eq_ok_iff.mp hc
  have h : m.Reports e := ⟨List.head?_eq_some_iff.mpr ⟨rest, hqueue⟩, hpersist, hpage⟩
  refine ⟨errands_finish hm fuel xs h, fun method path ↦ ?_⟩
  obtain ⟨hreports, hleft⟩ := errands_filter hm fuel method path xs h h rfl
  obtain ⟨hreports', hleft'⟩ := errands_filter hm fuel method path ys h h rfl
  rw [hreports, hleft, hreports', hleft', hsame method path]
  exact ⟨rfl, rfl⟩

end Client

/-- Post a comment. -/
def Errand.posting : Errand := .operation (.createIssueComment ⟨"o", "r", 1⟩ (.text "hello"))

/-- List the comments on the same issue. -/
def Errand.looking : Errand := .operation (.issueComments ⟨"o", "r", 1⟩)

/-- They have one path, but two routes: the comment is posted alike, before a look and after. -/
theorem Client.posting_looking_commute :
    ((standard Routes.transport {}).errands 0 [.posting, .looking] .commentsOnly).1.filter
        (·.errand.isOn "POST" "/repos/o/r/issues/1/comments") =
      ((standard Routes.transport {}).errands 0 [.looking, .posting] .commentsOnly).1.filter
        (·.errand.isOn "POST" "/repos/o/r/issues/1/comments") ∧
    ((standard Routes.transport {}).errands 0 [.posting, .looking] .commentsOnly).2.queue
        "POST" "/repos/o/r/issues/1/comments" =
      ((standard Routes.transport {}).errands 0 [.looking, .posting] .commentsOnly).2.queue
        "POST" "/repos/o/r/issues/1/comments" := by
  have hc : Client.ofSettings Routes.transport {} = .ok (standard Routes.transport {}) :=
    Client.ofSettings_eq_ok_iff.mpr ⟨by decide, by decide, rfl⟩
  have hqueue : Routes.commentsOnly.queue "GET" "/rate_limit" =
      [{ method := "GET", path := "/rate_limit", persist := true, failure := "down" }] := by
    simp [Routes.queue, Routes.commentsOnly]
  refine (Client.errands_commute hc (by decide) 0 hqueue rfl rfl fun method path ↦ ?_).2 _ _
  by_cases hposting : Errand.posting.isOn method path = true
  · have hlooking : Errand.looking.isOn method path = false := by
      rw [Errand.isOn, Bool.and_eq_true, beq_iff_eq, beq_iff_eq] at hposting
      obtain ⟨rfl, rfl⟩ := hposting
      decide +kernel
    simp [List.filter_cons, hlooking]
  · simp [List.filter_cons, hposting]

end PullRelay
