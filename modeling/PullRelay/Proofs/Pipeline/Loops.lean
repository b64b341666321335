import Mathlib.Tactic.Push
import PullRelay.Pipeline.Chain

/-!
# The two loops as relations

`Retry.attempt` and `Pagination.follow` are recursive functions on states.  This
file describes their runs by two inductive relations, `Retry.Attempts` and
`Pagination.Follows`, whose constructors are the ways in which one round can go:
the work raises or does not end, the loop ends with what the work returned, or
another round follows.  The relations are the graphs of the functions
(`Retry.attempt_eq_iff`, `Pagination.follow_eq_iff`), so that a statement about
all runs of a loop is one induction with a named case for each way.  A watch has no
loop; its runs are told by `QuotaWatch.around_cases`.
-/

namespace PullRelay

variable {σ ι : Type}

namespace State

/-- The state without the items staged after the first `n`. -/
def cut (s : State σ ι) (n : Nat) : State σ ι := { s with staged := s.staged.take n }

/-- The state with an event on record. -/
def record (s : State σ ι) (e : Event) : State σ ι := { s with world := s.world.record e }

@[simp] theorem world_cut (s : State σ ι) (n : Nat) : (s.cut n).world = s.world := rfl

@[simp] theorem staged_cut (s : State σ ι) (n : Nat) :
    (s.cut n).staged = s.staged.take n := rfl

@[simp] theorem world_record (s : State σ ι) (e : Event) :
    (s.record e).world = s.world.record e := rfl

@[simp] theorem staged_record (s : State σ ι) (e : Event) : (s.record e).staged = s.staged := rfl

end State

namespace Action

variable {α β : Type}

theorem bind_of_returned {m : Action σ ι α} {k : α → Action σ ι β} {s s' : State σ ι} {a : α}
    (h : m s = (.returned a, s')) : (m >>= k) s = k a s' := by rw [bind_apply, h]

theorem bind_of_raised {m : Action σ ι α} {k : α → Action σ ι β} {s s' : State σ ι} {f : Failure}
    (h : m s = (.raised f, s')) : (m >>= k) s = (.raised f, s') := by rw [bind_apply, h]

theorem bind_of_unfinished {m : Action σ ι α} {k : α → Action σ ι β} {s s' : State σ ι}
    (h : m s = (.unfinished, s')) : (m >>= k) s = (.unfinished, s') := by rw [bind_apply, h]

/-- Rolling back cuts the buffer. -/
theorem rollback_eq (n : Nat) (s : State σ ι) :
    (rollback n : Action σ ι Unit) s = (.returned (), s.cut n) := rfl

/-- Recording leaves the state with the event on record. -/
theorem record_eq (e : Event) (s : State σ ι) : record e s = (.returned (), s.record e) := rfl

end Action

/-! ## Attempts -/

namespace Retry

/-- The runs of a retry: from a state, with so many attempts left after the next
one and the failures so far, to an ending and the state it leaves behind. -/
inductive Attempts (r : Retry) (inner : Work σ ι) (page : Int) (savepoint : Nat) :
    Nat → List Failure → State σ ι → Ending (Result σ ι) → State σ ι → Prop
  | raised {further errors s s' f} (h : inner page (s.cut savepoint) = (.raised f, s')) :
      Attempts r inner page savepoint further errors s (.raised f) s'
  | unfinished {further errors s s'} (h : inner page (s.cut savepoint) = (.unfinished, s')) :
      Attempts r inner page savepoint further errors s .unfinished s'
  /-- The attempt succeeds, or fails in a way that is not worth another one. -/
  | settled {further errors s s' result} (h : inner page (s.cut savepoint) = (.returned result, s'))
      (stop : ∀ e, result.error = some e → r.accepts e = false) :
      Attempts r inner page savepoint further errors s (.returned result) s'
  /-- The last attempt fails as those before it. -/
  | exhausted {errors s s' result e} (h : inner page (s.cut savepoint) = (.returned result, s'))
      (he : result.error = some e) (ha : r.accepts e = true) :
      Attempts r inner page savepoint 0 errors s
        (.returned (result.failing (.exhausted (errors ++ [e])))) (s'.cut savepoint)
  | again {further errors s s₁ s' result e ending}
      (h : inner page (s.cut savepoint) = (.returned result, s₁))
      (he : result.error = some e) (ha : r.accepts e = true)
      (rest : Attempts r inner page savepoint further (errors ++ [e]) (s₁.record (.slept r.delay))
        ending s') :
      Attempts r inner page savepoint (further + 1) errors s ending s'

variable {r : Retry} {inner : Work σ ι} {page : Int} {savepoint : Nat}

/-- What the function does once the buffer is cut and the work has returned. -/
theorem attempt_of_returned {further : Nat} {errors : List Failure} {s s' : State σ ι}
    {result : Result σ ι} (h : inner page (s.cut savepoint) = (.returned result, s')) :
    r.attempt inner page savepoint further errors s =
      match result.error with
      | none => (.returned result, s')
      | some e =>
        if r.accepts e then
          match further with
          | 0 => (.returned (result.failing (.exhausted (errors ++ [e]))), s'.cut savepoint)
          | n + 1 => r.attempt inner page savepoint n (errors ++ [e]) (s'.record (.slept r.delay))
        else (.returned result, s') := by
  rw [attempt, Action.bind_of_returned (Action.rollback_eq savepoint s), Action.bind_of_returned h]
  cases result.error with
  | none => rfl
  | some e =>
    by_cases ha : r.accepts e
    · cases further with
      | zero => simp [ha, Action.bind_of_returned (Action.rollback_eq savepoint s')]
      | succ n => simp [ha, Action.bind_of_returned (Action.record_eq (.slept r.delay) s')]
    · simp [ha]

theorem Attempts.attempt_eq {further : Nat} {errors : List Failure} {s s' : State σ ι}
    {ending : Ending (Result σ ι)}
    (h : r.Attempts inner page savepoint further errors s ending s') :
    r.attempt inner page savepoint further errors s = (ending, s') := by
  induction h with
  | @raised _ _ s _ _ h =>
    rw [attempt, Action.bind_of_returned (Action.rollback_eq savepoint s),
      Action.bind_of_raised h]
  | @unfinished _ _ s _ h =>
    rw [attempt, Action.bind_of_returned (Action.rollback_eq savepoint s),
      Action.bind_of_unfinished h]
  | @settled _ _ _ _ result h stop =>
    rw [attempt_of_returned h]
    cases he : result.error with
    | none => rfl
    | some e => simp [stop e he]
  | exhausted h he ha => simp [attempt_of_returned h, he, ha]
  | again h he ha _ ih => simpa [attempt_of_returned h, he, ha] using ih

/-- An attempt ends the retry, whatever is left of it, or fails in a way that is
worth another one. -/
theorem ends_or_fails (r : Retry) (inner : Work σ ι) (page : Int) (savepoint : Nat)
    (s : State σ ι) :
    (∃ ending s', ∀ further errors,
      r.Attempts inner page savepoint further errors s ending s') ∨
    ∃ result e s', inner page (s.cut savepoint) = (.returned result, s') ∧
      result.error = some e ∧ r.accepts e = true := by
  rcases h : inner page (s.cut savepoint) with ⟨result | f | _, s'⟩
  · by_cases stop : ∀ e, result.error = some e → r.accepts e = false
    · exact .inl ⟨_, _, fun _ _ ↦ .settled h stop⟩
    · push Not at stop
      obtain ⟨e, he, ha⟩ := stop
      exact .inr ⟨_, e, _, rfl, he, by simpa using ha⟩
  · exact .inl ⟨_, _, fun _ _ ↦ .raised h⟩
  · exact .inl ⟨_, _, fun _ _ ↦ .unfinished h⟩

/-- Every retry has a run. -/
theorem exists_attempts (r : Retry) (inner : Work σ ι) (page : Int) (savepoint further : Nat)
    (errors : List Failure) (s : State σ ι) :
    ∃ ending s', r.Attempts inner page savepoint further errors s ending s' := by
  induction further generalizing errors s with
  | zero =>
    rcases ends_or_fails r inner page savepoint s with
      ⟨ending, s', h⟩ | ⟨result, e, s', h, he, ha⟩
    · exact ⟨ending, s', h 0 errors⟩
    · exact ⟨_, _, .exhausted h he ha⟩
  | succ n ih =>
    rcases ends_or_fails r inner page savepoint s with
      ⟨ending, s', h⟩ | ⟨result, e, s', h, he, ha⟩
    · exact ⟨ending, s', h (n + 1) errors⟩
    · obtain ⟨ending, s'', rest⟩ := ih (errors ++ [e]) (s'.record (.slept r.delay))
      exact ⟨ending, s'', .again h he ha rest⟩

/-- The relation is the graph of the function. -/
theorem attempt_eq_iff {further : Nat} {errors : List Failure} {s s' : State σ ι}
    {ending : Ending (Result σ ι)} :
    r.attempt inner page savepoint further errors s = (ending, s') ↔
      r.Attempts inner page savepoint further errors s ending s' := by
  refine ⟨fun h ↦ ?_, Attempts.attempt_eq⟩
  obtain ⟨ending', s'', hrun⟩ := exists_attempts r inner page savepoint further errors s
  rw [hrun.attempt_eq, Prod.mk.injEq] at h
  obtain ⟨rfl, rfl⟩ := h
  exact hrun

/-- A retry runs its attempts from the savepoint at entry. -/
theorem around_apply (r : Retry) (inner : Work σ ι) (page : Int) (s : State σ ι) :
    r.around inner page s = r.attempt inner page s.staged.length r.further [] s := rfl

end Retry

/-! ## Pages -/

namespace Pagination

/-- The runs of a pagination: from a state, with so many pages allowed after the
one to be read, to an ending and the state it leaves behind. -/
inductive Follows (inner : Work σ ι) (atBound : Result σ ι → Action σ ι (Result σ ι)) :
    Nat → Int → State σ ι → Ending (Result σ ι) → State σ ι → Prop
  | raised {further page s s' f} (h : inner page s = (.raised f, s')) :
      Follows inner atBound further page s (.raised f) s'
  | unfinished {further page s s'} (h : inner page s = (.unfinished, s')) :
      Follows inner atBound further page s .unfinished s'
  | applyRaised {further page s s₁ s' result f} (h : inner page s = (.returned result, s₁))
      (ha : result.apply s₁ = (.raised f, s')) :
      Follows inner atBound further page s (.raised f) s'
  | applyUnfinished {further page s s₁ s' result} (h : inner page s = (.returned result, s₁))
      (ha : result.apply s₁ = (.unfinished, s')) :
      Follows inner atBound further page s .unfinished s'
  /-- The page fails, or it names no further one. -/
  | settled {further page s s₁ s' result} (h : inner page s = (.returned result, s₁))
      (ha : result.apply s₁ = (.returned (), s'))
      (stop : result.error = none → result.cursor? = none) :
      Follows inner atBound further page s (.returned result.settled) s'
  /-- A good page names a further one, and none may be read. -/
  | bound {page s s₁ s₂ s' result next ending} (h : inner page s = (.returned result, s₁))
      (ha : result.apply s₁ = (.returned (), s₂)) (he : result.error = none)
      (hn : result.cursor? = some next) (hb : atBound result s₂ = (ending, s')) :
      Follows inner atBound 0 page s ending s'
  | more {further page s s₁ s₂ s' result next ending} (h : inner page s = (.returned result, s₁))
      (ha : result.apply s₁ = (.returned (), s₂)) (he : result.error = none)
      (hn : result.cursor? = some next)
      (rest : Follows inner atBound further next s₂ ending s') :
      Follows inner atBound (further + 1) page s ending s'

variable {inner : Work σ ι} {atBound : Result σ ι → Action σ ι (Result σ ι)}

/-- What the function does once the page is read and its items are staged. -/
theorem follow_of_applied {further : Nat} {page : Int} {s s₁ s₂ : State σ ι} {result : Result σ ι}
    (h : inner page s = (.returned result, s₁)) (ha : result.apply s₁ = (.returned (), s₂)) :
    follow inner atBound further page s =
      match result.error, result.cursor? with
      | none, some next =>
        match further with
        | 0 => atBound result s₂
        | n + 1 => follow inner atBound n next s₂
      | _, _ => (.returned result.settled, s₂) := by
  rw [follow, Action.bind_of_returned h, Action.bind_of_returned ha]
  cases result.error with
  | some e => rfl
  | none =>
    cases result.cursor? with
    | none => rfl
    | some next => cases further <;> rfl

theorem Follows.follow_eq {further : Nat} {page : Int} {s s' : State σ ι}
    {ending : Ending (Result σ ι)} (h : Follows inner atBound further page s ending s') :
    follow inner atBound further page s = (ending, s') := by
  induction h with
  | raised h => rw [follow, Action.bind_of_raised h]
  | unfinished h => rw [follow, Action.bind_of_unfinished h]
  | applyRaised h ha => rw [follow, Action.bind_of_returned h, Action.bind_of_raised ha]
  | applyUnfinished h ha => rw [follow, Action.bind_of_returned h, Action.bind_of_unfinished ha]
  | @settled _ _ _ _ _ result h ha stop =>
    rw [follow_of_applied h ha]
    cases he : result.error with
    | some e => rfl
    | none => rw [stop he]
  | bound h ha he hn hb => simpa [follow_of_applied h ha, he, hn] using hb
  | more h ha he hn _ ih => simpa [follow_of_applied h ha, he, hn] using ih

/-- A page ends the pagination, however many are allowed, or is good and names a
further one. -/
theorem ends_or_names (inner : Work σ ι) (atBound : Result σ ι → Action σ ι (Result σ ι))
    (page : Int) (s : State σ ι) :
    (∃ ending s', ∀ further, Follows inner atBound further page s ending s') ∨
    ∃ result next s₁ s₂, inner page s = (.returned result, s₁) ∧
      result.apply s₁ = (.returned (), s₂) ∧ result.error = none ∧ result.cursor? = some next := by
  rcases h : inner page s with ⟨result | f | _, s₁⟩
  · rcases ha : result.apply s₁ with ⟨_ | f | _, s₂⟩
    · by_cases stop : result.error = none → result.cursor? = none
      · exact .inl ⟨_, _, fun _ ↦ .settled h ha stop⟩
      · push Not at stop
        obtain ⟨next, hn⟩ := Option.ne_none_iff_exists'.mp stop.2
        exact .inr ⟨result, next, s₁, s₂, rfl, ha, stop.1, hn⟩
    · exact .inl ⟨_, _, fun _ ↦ .applyRaised h ha⟩
    · exact .inl ⟨_, _, fun _ ↦ .applyUnfinished h ha⟩
  · exact .inl ⟨_, _, fun _ ↦ .raised h⟩
  · exact .inl ⟨_, _, fun _ ↦ .unfinished h⟩

/-- Every pagination has a run. -/
theorem exists_follows (inner : Work σ ι) (atBound : Result σ ι → Action σ ι (Result σ ι))
    (further : Nat) (page : Int) (s : State σ ι) :
    ∃ ending s', Follows inner atBound further page s ending s' := by
  induction further generalizing page s with
  | zero =>
    rcases ends_or_names inner atBound page s with
      ⟨ending, s', h⟩ | ⟨result, next, s₁, s₂, h, ha, he, hn⟩
    · exact ⟨ending, s', h 0⟩
    · exact ⟨_, _, .bound h ha he hn rfl⟩
  | succ n ih =>
    rcases ends_or_names inner atBound page s with
      ⟨ending, s', h⟩ | ⟨result, next, s₁, s₂, h, ha, he, hn⟩
    · exact ⟨ending, s', h (n + 1)⟩
    · obtain ⟨ending, s', rest⟩ := ih next s₂
      exact ⟨ending, s', .more h ha he hn rest⟩

/-- The relation is the graph of the function. -/
theorem follow_eq_iff {further : Nat} {page : Int} {s s' : State σ ι}
    {ending : Ending (Result σ ι)} :
    follow inner atBound further page s = (ending, s') ↔
      Follows inner atBound further page s ending s' := by
  refine ⟨fun h ↦ ?_, Follows.follow_eq⟩
  obtain ⟨ending', s'', hrun⟩ := exists_follows inner atBound further page s
  rw [hrun.follow_eq, Prod.mk.injEq] at h
  obtain ⟨rfl, rfl⟩ := h
  exact hrun

/-- What a pagination does past its bound: it fails with the page limit, or gives up
where there is no bound. -/
def Stops (p : Pagination) (atBound : Result σ ι → Action σ ι (Result σ ι)) : Prop :=
  ∀ result, atBound result = pure (result.settled.failing (.pageLimit p.limit)) ∨
    atBound result = Action.giveUp

/-- A pagination follows its pages from the first one, with a bound or without. -/
theorem exists_around_eq (p : Pagination) (fuel : Nat) (inner : Work σ ι) :
    ∃ atBound further, p.Stops atBound ∧
      ∀ page, p.around fuel inner page = follow inner atBound further firstPage := by
  cases hn : p.bound? with
  | some n =>
    refine ⟨fun result ↦ pure (result.settled.failing (.pageLimit p.limit)), n - 1, ?_, ?_⟩
    · intro result
      exact .inl rfl
    · intro page
      simp only [around, hn]
  | none =>
    refine ⟨fun _ ↦ Action.giveUp, fuel, ?_, ?_⟩
    · intro result
      exact .inr rfl
    · intro page
      simp only [around, hn]

/-- Past its bound a pagination leaves the state alone. -/
theorem Stops.eq {p : Pagination} (hb : p.Stops atBound) {result : Result σ ι} {s s' : State σ ι}
    {ending : Ending (Result σ ι)} (h : atBound result s = (ending, s')) :
    s' = s ∧ (ending = .returned (result.settled.failing (.pageLimit p.limit)) ∨
      ending = .unfinished) := by
  rcases hb result with hstop | hstop
  · rw [hstop] at h
    obtain ⟨rfl, rfl⟩ := Prod.mk.inj h
    exact ⟨rfl, .inl rfl⟩
  · rw [hstop] at h
    obtain ⟨rfl, rfl⟩ := Prod.mk.inj h
    exact ⟨rfl, .inr rfl⟩

end Pagination

/-- A watch leaves an unfinished run alone; any other it follows by its check. -/
theorem QuotaWatch.around_cases {inner : Work σ ι} {q : QuotaWatch σ} {page : Int} {s s' : State σ ι}
    {ending : Ending (Result σ ι)} (h : q.around inner page s = (ending, s')) :
    inner page s = (.unfinished, s') ∧ ending = .unfinished ∨
    ∃ ending₁ s₁ answer w', inner page s = (ending₁, s₁) ∧ ending₁ ≠ .unfinished ∧
      q.check s₁.world = (answer, w') ∧ s' = { s₁ with world := w' } ∧
      ending = match answer with | .ok _ => ending₁ | .error f => .raised f := by
  unfold QuotaWatch.around Action.andFinally at h
  rcases hi : inner page s with ⟨ending₁, s₁⟩
  rcases hc : q.check s₁.world with ⟨answer, w'⟩
  rw [hi] at h
  cases ending₁ with
  | unfinished =>
    obtain ⟨rfl, rfl⟩ := Prod.mk.inj h
    exact .inl ⟨rfl, rfl⟩
  | returned _ | raised _ =>
    refine .inr ⟨_, s₁, answer, w', rfl, by simp, hc, ?_⟩
    cases answer <;>
    · simp only [Action.ofOutside, hc, Prod.mk.injEq] at h
      exact ⟨h.2.symm, h.1.symm⟩

end PullRelay
