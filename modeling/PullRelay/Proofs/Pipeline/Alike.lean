import PullRelay.Proofs.Pipeline.Closure

/-!
# Runs alike

A run depends on the outside through the answers to its requests alone.  Work that is the same
over all transports (`Service`) runs *alike* where the answers are the same: from states with
equal buffers it ends in the same way, with the same buffer, and after the same events,
even if the machines have nothing else in common.  The course of a run can therefore be
written down apart from any machine (`Course`), and a statement on two runs is one on each
of them.

Retries and paginations run alike if the work they surround does (`Retry.alike_around`,
`Pagination.alike_around`).  A watch on the quota is kept apart: what it logs depends on
the answer to its probe, and notices are none of the events here.
-/

namespace PullRelay

variable {σ σ₀ ι : Type}

/-- An event that is no notice, and a request only if it is such as `p` says. -/
def Event.IsQuiet (p : Request → Prop) : Event → Prop
  | .requested r => p r
  | .logged _ => False
  | _ => True

theorem Event.IsQuiet.mono {p p' : Request → Prop} {e : Event} (h : e.IsQuiet p)
    (hp : ∀ r, p r → p' r) : e.IsQuiet p' := by
  cases e with
  | requested r => exact hp r h
  | logged _ => exact h.elim
  | _ => exact trivial

/-! ## Courses -/

/-- What runs that are alike have in common. -/
structure Course (ι : Type) where
  ending : Ending (Delivery ι)
  staged : List ι
  events : List Event

namespace Course

/-- The state at the end of a course. -/
def final (c : Course ι) (t : Transport σ) (w : World σ) : State σ ι :=
  ⟨w.after t c.events, c.staged⟩

/-- How an action ends that takes the course. -/
def outcome (c : Course ι) (t : Transport σ) (w : World σ) : Ending (Result σ ι) × State σ ι :=
  (c.ending.map Delivery.result, c.final t w)

/-- A course with one more event at its end. -/
def add (c : Course ι) (e : Event) : Course ι := { c with events := c.events ++ [e] }

/-- A course after another one. -/
def after (c' c : Course ι) : Course ι := { c' with events := c.events ++ c'.events }

theorem final_add (c : Course ι) {e : Event} (he : e.request? = none) (t : Transport σ)
    (w : World σ) : (c.add e).final t w = (c.final t w).record e := by
  simp only [final, add, State.record, World.record_eq_after (t := t) he, World.after_after]

theorem outcome_after (c' c : Course ι) (t : Transport σ) (w : World σ) :
    (c'.after c).outcome t w = c'.outcome t (c.final t w).world := by
  simp only [outcome, final, after, World.after_after]

/-- The course makes no notices and none but the requests that are such as `p` says, and what
it returns names none but the pages that are such as `q` says. -/
structure IsQuiet (p : Request → Prop) (q : Int → Prop) (c : Course ι) : Prop where
  events : ∀ e ∈ c.events, e.IsQuiet p
  pages : ∀ d next, c.ending = .returned d → d.next = some next → q next

variable {p : Request → Prop} {q : Int → Prop} {c c' : Course ι}

theorem IsQuiet.add (h : c.IsQuiet p q) {e : Event} (he : e.IsQuiet p) :
    (c.add e).IsQuiet p q where
  events e' he' := by
    rcases List.mem_append.mp he' with he' | he'
    · exact h.events e' he'
    · rwa [List.mem_singleton.mp he']
  pages := h.pages

theorem IsQuiet.after (h' : c'.IsQuiet p q) (h : c.IsQuiet p q) : (c'.after c).IsQuiet p q where
  events e he := by
    rcases List.mem_append.mp he with he | he
    · exact h.events e he
    · exact h'.events e he
  pages := h'.pages

end Course

/-- The states have equal buffers, and along these events their machines give the same
answers. -/
structure State.Like (t₀ : Transport σ₀) (s₀ : State σ₀ ι) (events : List Event)
    (t : Transport σ) (s : State σ ι) : Prop where
  staged : s.staged = s₀.staged
  answers : t.exchanges s.world.machine events = t₀.exchanges s₀.world.machine events

namespace State.Like

variable {t₀ : Transport σ₀} {s₀ : State σ₀ ι} {t : Transport σ} {s : State σ ι}
  {xs ys : List Event}

theorem refl (t : Transport σ) (s : State σ ι) (events : List Event) :
    State.Like t s events t s := ⟨rfl, rfl⟩

theorem cut (h : State.Like t₀ s₀ xs t s) (n : Nat) :
    State.Like t₀ (s₀.cut n) xs t (s.cut n) where
  staged := by rw [staged_cut, staged_cut, h.staged]
  answers := h.answers

/-- The first part of the events. -/
theorem left (h : State.Like t₀ s₀ (xs ++ ys) t s) : State.Like t₀ s₀ xs t s :=
  ⟨h.staged, (Transport.exchanges_append_inj _ h.answers).1⟩

/-- The events after a course that both runs take. -/
theorem final {c : Course ι} (h : State.Like t₀ s₀ (c.events ++ ys) t s) :
    State.Like t₀ (c.final t₀ s₀.world) ys t (c.final t s.world) :=
  ⟨rfl, (Transport.exchanges_append_inj _ h.answers).2⟩

end State.Like

/-- Over every transport, the action takes the course from a state that is like the first one
along it. -/
def Course.TakenBy (c : Course ι) (t₀ : Transport σ₀) (s₀ : State σ₀ ι)
    (m : ∀ ⦃σ : Type⦄, Transport σ → Action σ ι (Result σ ι)) : Prop :=
  ∀ ⦃σ : Type⦄ (t : Transport σ) (s : State σ ι), s₀.Like t₀ c.events t s →
    m t s = c.outcome t s.world

theorem Course.TakenBy.eq {c : Course ι} {t₀ : Transport σ₀} {s₀ : State σ₀ ι}
    {m : ∀ ⦃σ : Type⦄, Transport σ → Action σ ι (Result σ ι)} (h : c.TakenBy t₀ s₀ m)
    {t : Transport σ} {s : State σ ι} (hs : s₀.Like t₀ c.events t s)
    {ending : Ending (Delivery ι)} (hending : c.ending = ending) :
    m t s = (ending.map Delivery.result, c.final t s.world) := hending ▸ h t s hs

/-- Work that is the same over all transports. -/
abbrev Service (ι : Type) := ∀ ⦃σ : Type⦄, Transport σ → Work σ ι

/-- For the pages that are such as `q` says, and from states that are like one another, the
work takes the same quiet course over all transports. -/
def Service.Alike (p : Request → Prop) (q : Int → Prop) (work : Service ι) : Prop :=
  ∀ ⦃σ₀ : Type⦄ (t₀ : Transport σ₀) ⦃page : Int⦄, q page → ∀ s₀ : State σ₀ ι,
    ∃ c : Course ι, c.IsQuiet p q ∧ c.TakenBy t₀ s₀ fun _ t ↦ work t page

variable {p : Request → Prop} {q : Int → Prop} {inner : Service ι}

/-! ## Retries and paginations -/

namespace Retry

/-- An attempt ends the retry in the same way over all transports, or fails alike in a way
that is worth another one. -/
theorem taken_or_fails (hw : inner.Alike p q) (r : Retry) {page : Int} (hpage : q page)
    (savepoint : Nat) (t₀ : Transport σ₀) (s₀ : State σ₀ ι) :
    (∃ c : Course ι, c.IsQuiet p q ∧ ∀ further errors,
      c.TakenBy t₀ s₀ fun _ t ↦ r.attempt (inner t) page savepoint further errors) ∨
    ∃ (c : Course ι) (d : Delivery ι) (e : Failure), c.IsQuiet p q ∧
      c.ending = .returned d ∧ d.error = some e ∧ r.accepts e = true ∧
      c.TakenBy t₀ (s₀.cut savepoint) fun _ t ↦ inner t page := by
  obtain ⟨c, hc, hrun⟩ := hw t₀ hpage (s₀.cut savepoint)
  cases hending : c.ending with
  | raised f =>
    refine .inl ⟨c, hc, fun further errors _ t s hs ↦ ?_⟩
    rw [Course.outcome, hending]
    exact (Attempts.raised (hrun.eq (hs.cut savepoint) hending)).attempt_eq
  | unfinished =>
    refine .inl ⟨c, hc, fun further errors _ t s hs ↦ ?_⟩
    rw [Course.outcome, hending]
    exact (Attempts.unfinished (hrun.eq (hs.cut savepoint) hending)).attempt_eq
  | returned d =>
    by_cases stop : ∀ e, d.error = some e → r.accepts e = false
    · refine .inl ⟨c, hc, fun further errors _ t s hs ↦ ?_⟩
      rw [Course.outcome, hending]
      exact (Attempts.settled (hrun.eq (hs.cut savepoint) hending) stop).attempt_eq
    · push Not at stop
      obtain ⟨e, he, ha⟩ := stop
      exact .inr ⟨c, d, e, hc, hending, he, by simpa using ha, hrun⟩

theorem exists_taken (hw : inner.Alike p q) (r : Retry) {page : Int} (hpage : q page)
    (savepoint further : Nat) (errors : List Failure) (t₀ : Transport σ₀) (s₀ : State σ₀ ι) :
    ∃ c : Course ι, c.IsQuiet p q ∧
      c.TakenBy t₀ s₀ fun _ t ↦ r.attempt (inner t) page savepoint further errors := by
  induction further generalizing errors s₀ with
  | zero =>
    rcases taken_or_fails hw r hpage savepoint t₀ s₀ with
      ⟨c, hc, hrun⟩ | ⟨c, d, e, hc, hending, he, ha, hrun⟩
    · exact ⟨c, hc, hrun 0 errors⟩
    · refine ⟨⟨.returned { d with error := some (.exhausted (errors ++ [e])) },
        c.staged.take savepoint, c.events⟩, ⟨hc.events, ?_⟩, fun _ t s hs ↦ ?_⟩
      · rintro _ next ⟨⟩ hnext
        exact hc.pages d next hending hnext
      · exact (Attempts.exhausted (hrun.eq (State.Like.cut hs savepoint) hending) he ha).attempt_eq
  | succ further ih =>
    rcases taken_or_fails hw r hpage savepoint t₀ s₀ with
      ⟨c, hc, hrun⟩ | ⟨c, d, e, hc, hending, he, ha, hrun⟩
    · exact ⟨c, hc, hrun (further + 1) errors⟩
    · have hpause := hc.add (e := .slept r.delay) trivial
      obtain ⟨c', hc', hrest⟩ := ih (errors ++ [e]) ((c.add (.slept r.delay)).final t₀ s₀.world)
      refine ⟨c'.after (c.add (.slept r.delay)), hc'.after hpause, fun _ t s hs ↦ ?_⟩
      have hfirst := hrun.eq (hs.left.left.cut savepoint) hending
      have hnext : r.attempt (inner t) page savepoint further (errors ++ [e])
          ((c.final t s.world).record (.slept r.delay)) =
            c'.outcome t ((c.add (.slept r.delay)).final t s.world).world := by
        rw [← Course.final_add c rfl]
        exact hrest t _ hs.final
      rw [Course.outcome_after]
      exact attempt_eq_iff.mpr (.again hfirst he ha (attempt_eq_iff.mp hnext))

theorem alike_around (hw : inner.Alike p q) (r : Retry) :
    Service.Alike p q fun _ t ↦ r.around (inner t) := by
  intro σ₀ t₀ page hpage s₀
  obtain ⟨c, hc, hrun⟩ := exists_taken hw r hpage s₀.staged.length r.further [] t₀ s₀
  refine ⟨c, hc, fun _ t s hs ↦ ?_⟩
  show r.around (inner t) page s = _
  rw [around_apply, hs.staged]
  exact hrun t s hs

end Retry

namespace Pagination

/-- What is done at the bound leaves the state alone, and comes to the same over all
transports. -/
def Inert (q : Int → Prop)
    (atBound : ∀ ⦃σ : Type⦄, Result σ ι → Action σ ι (Result σ ι)) : Prop :=
  ∀ d : Delivery ι, (∀ next, d.next = some next → q next) →
    ∃ ending : Ending (Delivery ι),
      (∀ d' next, ending = .returned d' → d'.next = some next → q next) ∧
      ∀ ⦃σ : Type⦄ (s : State σ ι), atBound d.result s = (ending.map Delivery.result, s)

/-- A page ends the pagination in the same way over all transports, or is good and names the
same further page. -/
theorem taken_or_names (hw : inner.Alike p q)
    (atBound : ∀ ⦃σ : Type⦄, Result σ ι → Action σ ι (Result σ ι)) {page : Int} (hpage : q page)
    (t₀ : Transport σ₀) (s₀ : State σ₀ ι) :
    (∃ c : Course ι, c.IsQuiet p q ∧ ∀ further,
      c.TakenBy t₀ s₀ fun σ t ↦ follow (inner t) (@atBound σ) further page) ∨
    ∃ (c : Course ι) (d : Delivery ι) (next : Int), c.IsQuiet p q ∧
      c.ending = .returned d ∧ d.error = none ∧ d.next = some next ∧ next ≠ 0 ∧
      c.TakenBy t₀ s₀ fun _ t ↦ inner t page := by
  obtain ⟨c, hc, hrun⟩ := hw t₀ hpage s₀
  cases hending : c.ending with
  | raised f =>
    refine .inl ⟨c, hc, fun further _ t s hs ↦ ?_⟩
    rw [Course.outcome, hending]
    exact (Follows.raised (hrun.eq hs hending)).follow_eq
  | unfinished =>
    refine .inl ⟨c, hc, fun further _ t s hs ↦ ?_⟩
    rw [Course.outcome, hending]
    exact (Follows.unfinished (hrun.eq hs hending)).follow_eq
  | returned d =>
    by_cases stop : d.error = none → d.next.filter (· != 0) = none
    · refine .inl ⟨⟨.returned (d.withItems []), c.staged ++ d.items, c.events⟩,
        ⟨hc.events, ?_⟩, fun further _ t s hs ↦ ?_⟩
      · rintro _ next ⟨⟩ hnext
        exact hc.pages d next hending hnext
      · rw [Course.outcome, Ending.map_returned, ← d.settled_result]
        exact (Follows.settled (hrun.eq hs hending) rfl stop).follow_eq
    · push Not at stop
      obtain ⟨next, hn⟩ := Option.ne_none_iff_exists'.mp stop.2
      rw [Option.filter_eq_some_iff, bne_iff_ne] at hn
      exact .inr ⟨c, d, next, hc, hending, stop.1, hn.1, hn.2, hrun⟩

theorem exists_taken (hw : inner.Alike p q)
    {atBound : ∀ ⦃σ : Type⦄, Result σ ι → Action σ ι (Result σ ι)} (hb : Inert q atBound)
    (further : Nat) {page : Int} (hpage : q page) (t₀ : Transport σ₀) (s₀ : State σ₀ ι) :
    ∃ c : Course ι, c.IsQuiet p q ∧
      c.TakenBy t₀ s₀ fun σ t ↦ follow (inner t) (@atBound σ) further page := by
  have hcursor {σ : Type} {d : Delivery ι} {next : Int} (hn : d.next = some next)
      (hne : next ≠ 0) : (d.result : Result σ ι).cursor? = some next := by
    simp [Result.cursor?, Delivery.result, hn, hne]
  induction further generalizing page s₀ with
  | zero =>
    rcases taken_or_names hw atBound hpage t₀ s₀ with
      ⟨c, hc, hrun⟩ | ⟨c, d, next, hc, hending, he, hn, hne, hrun⟩
    · exact ⟨c, hc, hrun 0⟩
    · obtain ⟨ending, hpages, hbound⟩ := hb d fun next ↦ hc.pages d next hending
      refine ⟨⟨ending, c.staged ++ d.items, c.events⟩, ⟨hc.events, hpages⟩, fun _ t s hs ↦ ?_⟩
      exact (Follows.bound (hrun.eq hs hending) rfl he (hcursor hn hne) (hbound _)).follow_eq
  | succ further ih =>
    rcases taken_or_names hw atBound hpage t₀ s₀ with
      ⟨c, hc, hrun⟩ | ⟨c, d, next, hc, hending, he, hn, hne, hrun⟩
    · exact ⟨c, hc, hrun (further + 1)⟩
    · let c₁ : Course ι := { c with staged := c.staged ++ d.items }
      have hc₁ : c₁.IsQuiet p q := ⟨hc.events, hc.pages⟩
      obtain ⟨c', hc', hrest⟩ := ih (hc.pages d next hending hn) (c₁.final t₀ s₀.world)
      refine ⟨c'.after c₁, hc'.after hc₁, fun _ t s hs ↦ ?_⟩
      have hnext := hrest t _ hs.final
      rw [Course.outcome_after]
      exact follow_eq_iff.mpr
        (.more (hrun.eq hs.left hending) rfl he (hcursor hn hne) (follow_eq_iff.mp hnext))

theorem alike_around (hw : inner.Alike p q) (hfirst : q firstPage) (fuel : Nat)
    (pages : Pagination) : Service.Alike p q fun _ t ↦ pages.around fuel (inner t) := by
  intro σ₀ t₀ page _ s₀
  unfold around
  cases pages.bound? with
  | some n =>
    refine exists_taken hw (fun d hd ↦ ?_) (n - 1) hfirst t₀ s₀
    refine ⟨.returned ((d.withItems []).failing (.pageLimit pages.limit)), ?_, fun σ s ↦ ?_⟩
    · rintro _ next ⟨⟩
      exact hd next
    · rw [d.settled_result]
      rfl
  | none =>
    refine exists_taken hw (fun d _ ↦ ⟨.unfinished, ?_, fun _ s ↦ rfl⟩) fuel hfirst t₀ s₀
    rintro _ next ⟨⟩

end Pagination

end PullRelay
