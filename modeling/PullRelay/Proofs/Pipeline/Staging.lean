import PullRelay.Proofs.Pipeline.Results
import PullRelay.Rehearsal

/-!
# What was staged stays staged

A retry cuts the buffer back to where it was at entry, and retries inside of one another
hold savepoints of the same buffer.  What was staged before a chain runs is never lost:
the buffer at entry is a prefix of the buffer at the end, however the run ends
(`Chain.staged_isPrefix`), provided that the unit itself only appends.

The invariant of a retry is that the buffer begins with the items at entry, which are as
many as the savepoint says (`Retry.Attempts.keeps_staged`).  So a cut gives back these
items, whatever the attempt before it has staged and cut inside.
-/

namespace PullRelay

variable {σ ι α β : Type}

/-! ## Actions that append -/

/-- The action leaves all in the buffer that is there, however it ends. -/
def Action.Appends (m : Action σ ι α) : Prop := ∀ s, s.staged <+: (m s).2.staged

namespace Action

theorem appends_pure (a : α) : (pure a : Action σ ι α).Appends := by
  intro s
  exact List.prefix_rfl

theorem appends_stage (items : List ι) : (stage items : Action σ ι Unit).Appends := by
  intro s
  exact List.prefix_append s.staged items

theorem appends_record (e : Event) : (record e : Action σ ι Unit).Appends := by
  intro s
  exact List.prefix_rfl

theorem Appends.bind {m : Action σ ι α} {k : α → Action σ ι β} (hm : m.Appends)
    (hk : ∀ {s a s'}, m s = (.returned a, s') → (k a).Appends) : (m >>= k).Appends := by
  intro s
  have hfirst := hm s
  rcases h : m s with ⟨a | f | _, s'⟩
  · rw [h] at hfirst
    rw [bind_of_returned h]
    exact hfirst.trans (hk h s')
  · rw [bind_of_raised h]
    rwa [h] at hfirst
  · rw [bind_of_unfinished h]
    rwa [h] at hfirst

end Action

/-- The work only appends to the buffer, and so do its results when they are applied. -/
structure Work.Appends (work : Work σ ι) : Prop where
  run page : (work page).Appends
  returns : work.Returns fun r ↦ r.apply.Appends

theorem Result.survives_appends : Result.Survives fun r : Result σ ι ↦ r.apply.Appends where
  settled _ := Action.appends_pure ()
  failing h _ _ := h

/-! ## Layers and chains -/

variable {inner : Work σ ι}

/-- A run of the work from a buffer that begins with these items leaves them there. -/
theorem Work.Appends.isPrefix (hw : inner.Appends) {page : Int} {s s' : State σ ι}
    {ending : Ending (Result σ ι)} {base : List ι} (hbase : base <+: s.staged)
    (h : inner page s = (ending, s')) : base <+: s'.staged := by
  have hrun := hw.run page s
  rw [h] at hrun
  exact hbase.trans hrun

/-- Cutting back to the length of a prefix leaves the prefix. -/
theorem State.staged_cut_of_isPrefix {s : State σ ι} {base : List ι} (h : base <+: s.staged) :
    (s.cut base.length).staged = base := by
  obtain ⟨rest, hrest⟩ := h
  rw [State.staged_cut, ← hrest, List.take_left]

/-- The items at entry are never lost by attempts whose savepoint is their number. -/
theorem Retry.Attempts.keeps_staged (hw : inner.Appends) {r : Retry} {page : Int}
    {base : List ι} {further : Nat} {errors : List Failure} {s s' : State σ ι}
    {ending : Ending (Result σ ι)}
    (h : r.Attempts inner page base.length further errors s ending s')
    (hbase : base <+: s.staged) : base <+: s'.staged := by
  have hcut {s : State σ ι} (hbase : base <+: s.staged) :
      base <+: (s.cut base.length).staged :=
    ⟨[], by rw [State.staged_cut_of_isPrefix hbase, List.append_nil]⟩
  induction h with
  | raised h | unfinished h | settled h _ => exact hw.isPrefix (hcut hbase) h
  | exhausted h _ _ => exact hcut (hw.isPrefix (hcut hbase) h)
  | again h _ _ _ ih =>
    have hnext := hw.isPrefix (hcut hbase) h
    exact ih hnext

theorem Retry.appends_around (hw : inner.Appends) (r : Retry) : (r.around inner).Appends where
  run page := by
    intro s
    obtain ⟨ending, s', h⟩ := exists_attempts r inner page s.staged.length r.further [] s
    rw [around_apply, h.attempt_eq]
    exact h.keeps_staged hw List.prefix_rfl
  returns := r.returns_around Result.survives_appends hw.returns

theorem Pagination.Follows.keeps_staged (hw : inner.Appends) {p : Pagination}
    {atBound : Result σ ι → Action σ ι (Result σ ι)} (hb : p.Stops atBound) {further : Nat}
    {page : Int} {s s' : State σ ι} {ending : Ending (Result σ ι)}
    (h : Follows inner atBound further page s ending s') : s.staged <+: s'.staged := by
  have happlied {page s s₁ s₂ r} {ending : Ending Unit}
      (h : inner page s = (.returned r, s₁)) (ha : r.apply s₁ = (ending, s₂)) :
      s.staged <+: s₂.staged := by
    have hstaged := hw.returns h s₁
    rw [ha] at hstaged
    exact (hw.isPrefix List.prefix_rfl h).trans hstaged
  induction h with
  | raised h | unfinished h => exact hw.isPrefix List.prefix_rfl h
  | applyRaised h ha | applyUnfinished h ha | settled h ha _ => exact happlied h ha
  | bound h ha _ _ hbound =>
    obtain ⟨rfl, -⟩ := hb.eq hbound
    exact happlied h ha
  | more h ha _ _ _ ih => exact (happlied h ha).trans ih

theorem Pagination.appends_around (hw : inner.Appends) (fuel : Nat) (p : Pagination) :
    (p.around fuel inner).Appends where
  run page := by
    intro s
    obtain ⟨atBound, further, hb, haround⟩ := p.exists_around_eq fuel inner
    obtain ⟨ending, s', h⟩ := exists_follows inner atBound further firstPage s
    rw [haround, h.follow_eq]
    exact h.keeps_staged hw hb
  returns := p.returns_around Result.survives_appends hw.returns fuel

theorem QuotaWatch.appends_around (hw : inner.Appends) (q : QuotaWatch σ) :
    (q.around inner).Appends where
  run page := by
    intro s
    rcases h : q.around inner page s with ⟨ending, s'⟩
    rcases q.around_cases h with ⟨hi, rfl⟩ | ⟨ending₁, s₁, answer, w', hi, -, -, rfl, -⟩
    · exact hw.isPrefix List.prefix_rfl hi
    · have hrun := hw.isPrefix List.prefix_rfl hi
      exact hrun
  returns := q.returns_around hw.returns

theorem Layer.appends_recordAround (hw : inner.Appends) (name : String) :
    (Layer.recordAround name inner).Appends where
  run page := by
    refine (Action.appends_record _).bind fun _ ↦ (hw.run page).bind fun _ ↦ ?_
    exact (Action.appends_record _).bind fun _ ↦ Action.appends_pure _
  returns := Layer.returns_recordAround hw.returns name

/-- A chain around a unit that only appends does so as well. -/
theorem Chain.appends_around {unit : Work σ ι} (hu : unit.Appends) (fuel : Nat)
    (chain : Chain σ) : (chain.around fuel unit).Appends := by
  induction chain with
  | nil => exact hu
  | cons layer chain ih =>
    rw [Chain.around_cons]
    cases layer with
    | quota q => exact QuotaWatch.appends_around ih q
    | retry r => exact Retry.appends_around ih r
    | pagination p => exact Pagination.appends_around ih fuel p
    | recorder name => exact Layer.appends_recordAround ih name

/-- Something to run in a context: a unit of work inside a chain, for a page.  The result may
be applied after that. -/
structure Execution (σ ι : Type) where
  chain : Chain σ
  unit : Work σ ι
  page : Int := noPage
  applies : Bool := false

namespace Execution

/-- Run the unit inside of its chain. -/
def action (fuel : Nat) (x : Execution σ ι) : Action σ ι Unit := do
  let result ← x.chain.around fuel x.unit x.page
  if x.applies then result.apply else pure ()

/-- The state after executions that share it, one after the other, however each of them ends. -/
def finalState (fuel : Nat) (s : State σ ι) (executions : List (Execution σ ι)) : State σ ι :=
  executions.foldl (fun s x ↦ (x.action fuel s).2) s

theorem appends_action {x : Execution σ ι} (hu : x.unit.Appends) (fuel : Nat) :
    (x.action fuel).Appends := by
  have hchain := Chain.appends_around hu fuel x.chain
  refine (hchain.run x.page).bind fun h ↦ ?_
  split
  · exact hchain.returns h
  · exact Action.appends_pure ()

end Execution

/-- Whatever was staged before an execution, by earlier ones or by anything else, is still
there after it and after all later ones, in its place: the chains may hold any layers in
any order and number, and each run may return, fail or raise.  Without earlier executions
this is a statement on the buffer at entry, and a single later one is a single run. -/
theorem Chain.staged_isPrefix {later : List (Execution σ ι)} (h : ∀ x ∈ later, x.unit.Appends)
    (fuel : Nat) (earlier : List (Execution σ ι)) (s : State σ ι) :
    (Execution.finalState fuel s earlier).staged <+:
      (Execution.finalState fuel s (earlier ++ later)).staged := by
  rw [Execution.finalState, Execution.finalState, List.foldl_append]
  generalize earlier.foldl _ s = s₁
  induction later generalizing s₁ with
  | nil => exact List.prefix_rfl
  | cons x later ih =>
    have hstep := Execution.appends_action (h x List.mem_cons_self) fuel s₁
    rw [List.foldl_cons]
    exact hstep.trans (ih (fun y hy ↦ h y (List.mem_cons_of_mem _ hy)) _)

/-- A scripted unit stages the items of a page after those that are there. -/
theorem Rehearsal.Script.appends_unit (script : Script) : script.unit.Appends where
  run page := by
    intro s
    unfold unit
    dsimp only
    split <;> exact List.prefix_rfl
  returns := by
    intro page s r s' h
    unfold unit at h
    dsimp only at h
    split at h
    all_goals
      obtain ⟨hr, -⟩ := Prod.mk.inj h
      cases hr
    · exact Action.appends_pure ()
    · exact Action.appends_pure ()
    · exact (Action.appends_record _).bind fun _ ↦ Action.appends_stage _

/-- Retries outside of the pages and inside of them, around a second page that is lost with
its items on the way. -/
def Execution.losing : Execution Rehearsal.Machine Value where
  chain := [.retry (.ofAttempts 2 .nan Failure.isRetryable), .pagination .unbounded,
    .retry (.ofAttempts 2 .nan Failure.isRetryable)]
  unit := (Rehearsal.Script.pages [[.yields 200 (some 2) none [.int 1]],
    [.yields 0 none (some (.transport "lost")) [.int 2]]]).unit

/-- A buffer that something has been staged in. -/
def State.used : State Rehearsal.Machine Value where
  world := { machine := {} }
  staged := [.text "kept"]

/-- The item stays in its place while each of two executions adds two pages. -/
theorem Execution.losing_staged_isPrefix :
    (∀ x ∈ [losing, losing], x.unit.Appends) ∧
    (finalState 5 State.used []).staged <+:
      (finalState 5 State.used ([] ++ [losing, losing])).staged ∧
    (finalState 5 State.used [losing, losing]).staged.length = 5 := by
  have h : ∀ x ∈ [losing, losing], x.unit.Appends := by
    intro x hx
    simp only [List.mem_cons, List.not_mem_nil, or_false, or_self] at hx
    subst hx
    exact Rehearsal.Script.appends_unit _
  exact ⟨h, Chain.staged_isPrefix h 5 [] State.used, by decide +kernel⟩

end PullRelay
