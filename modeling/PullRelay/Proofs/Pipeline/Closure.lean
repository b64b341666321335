import PullRelay.Proofs.Pipeline.Staging
import PullRelay.Proofs.Transport.Exchanges

/-!
# What all layers keep

A statement on runs relates the world before work, what the work delivers, and the world
after.  It is *closed* if it survives what the layers make of runs: joining the
run of a failed attempt to that of the next, joining a page to the pages after it,
replacing an error by an aggregate, and adding events that are no requests.  The
main result `Chain.satisfies_around` is the induction over the layers, done
once: a closed statement that holds of a unit of work holds of the unit inside any
chain, as long as the quotas that are watched keep it.

Results only stage items here (`Result.Stages`), as those of calls do, so that
applying one changes no world.  Some layers stage the items of a result and others leave that
to the caller.  What a run without an error delivers is all that the buffer has
gained once its result is applied (`Delivers`), and layers that move items from the
result to the buffer deliver the same.
-/

namespace PullRelay

variable {σ ι : Type}

/-! ## Deliveries -/

/-- Applying the result stages items, and does nothing else. -/
def Result.Stages (r : Result σ ι) : Prop := ∃ items, r.apply = Action.stage items

/-- Staging no items does nothing. -/
theorem Action.stage_nil : (Action.stage [] : Action σ ι Unit) = pure () := by
  funext s
  rw [stage_apply, pure_apply, List.append_nil]

/-- Applying a result that only stages leaves the world alone. -/
theorem Result.Stages.world_eq {r : Result σ ι} (h : r.Stages) {s s' : State σ ι}
    {ending : Ending Unit} (ha : r.apply s = (ending, s')) :
    ending = .returned () ∧ s'.world = s.world := by
  obtain ⟨items, hitems⟩ := h
  rw [hitems, Action.stage_apply, Prod.mk.injEq] at ha
  exact ⟨ha.1.symm, by rw [← ha.2]⟩

/-- What a result comes to that only stages, apart from any machine. -/
structure Delivery (ι : Type) where
  items : List ι
  status : Int
  next : Option Int
  error : Option Failure

namespace Delivery

/-- The result on a machine. -/
def result (d : Delivery ι) : Result σ ι where
  apply := Action.stage d.items
  status := d.status
  next := d.next
  error := d.error

/-- The same delivery with other items. -/
def withItems (d : Delivery ι) (items : List ι) : Delivery ι := { d with items }

/-- The same delivery with another error. -/
def failing (d : Delivery ι) (e : Failure) : Delivery ι := { d with error := some e }

/-- The same delivery after these items. -/
def after (d : Delivery ι) (items : List ι) : Delivery ι := d.withItems (items ++ d.items)

/-- The page to go on with; a cursor of zero names none. -/
def cursor? (d : Delivery ι) : Option Int := d.next.filter (· != 0)

@[simp] theorem failing_error (d : Delivery ι) (e : Failure) : (d.failing e).error = some e := rfl

@[simp] theorem failing_next (d : Delivery ι) (e : Failure) : (d.failing e).next = d.next := rfl

@[simp] theorem after_error (d : Delivery ι) (items : List ι) : (d.after items).error = d.error :=
  rfl

/-- A result that has been staged delivers nothing more. -/
theorem settled_result (d : Delivery ι) :
    (d.result : Result σ ι).settled = (d.withItems []).result := by
  rw [Result.settled, withItems, result, result, Action.stage_nil]

end Delivery

/-- How a run has ended that began and ended with these buffers, and what it has delivered:
unless it has failed, all that the buffer has gained once the result is applied. -/
inductive Delivers (base buffer : List ι) : Ending (Result σ ι) → Ending (Delivery ι) → Prop
  | returned {d : Delivery ι} {left : List ι}
      (h : d.error = none → buffer ++ left = base ++ d.items) :
      Delivers base buffer (.returned (d.withItems left).result) (.returned d)
  | raised {f} : Delivers base buffer (.raised f) (.raised f)
  | unfinished : Delivers base buffer .unfinished .unfinished

namespace Delivers

variable {base buffer : List ι} {ending : Ending (Result σ ι)} {outcome : Ending (Delivery ι)}

theorem stages (h : Delivers base buffer ending outcome) {r : Result σ ι}
    (hr : ending = .returned r) : r.Stages := by
  cases h with
  | returned =>
    cases hr
    exact ⟨_, rfl⟩
  | raised | unfinished => cases hr

/-- Work that leaves the buffer alone delivers what its result stages. -/
theorem of_result (base : List ι) (outcome : Ending (Delivery ι)) :
    Delivers (σ := σ) base base (outcome.map Delivery.result) outcome := by
  cases outcome with
  | returned d => exact @returned σ ι base base d d.items fun _ ↦ rfl
  | raised f => exact .raised
  | unfinished => exact .unfinished

/-- What was staged at the beginning of a run is part of what it delivers with what came before. -/
theorem after {items : List ι} (h : Delivers (base ++ items) buffer ending outcome) :
    Delivers base buffer ending (outcome.map fun d ↦ d.after items) := by
  cases h with
  | @returned d left h =>
    refine @returned σ ι base buffer (d.after items) left fun he ↦ ?_
    rw [h he, Delivery.after, Delivery.withItems, List.append_assoc]
  | raised => exact .raised
  | unfinished => exact .unfinished

end Delivers

/-! ## Closed statements -/

/-- A statement on runs: the world before, what is delivered, and the world after. -/
abbrev Runs (σ ι : Type) := World σ → Ending (Delivery ι) → World σ → Prop

/-- All runs of the work satisfy a statement; the work only appends to the buffer, and its
results only stage. -/
structure Work.Satisfies (Φ : Runs σ ι) (work : Work σ ι) : Prop where
  appends : work.Appends
  run {page s ending s'} (h : work page s = (ending, s')) :
    ∃ outcome, Φ s.world outcome s'.world ∧ Delivers s.staged s'.staged ending outcome

/-- A statement on runs that survives what retries, paginations and recorders do. -/
structure Runs.Closed (Φ : Runs σ ι) : Prop where
  before {w outcome w' e} (he : e.request? = none) (h : Φ (w.record e) outcome w') : Φ w outcome w'
  after {w outcome w' e} (he : e.request? = none) (h : Φ w outcome w') : Φ w outcome (w'.record e)
  /-- The pagination stops at its bound. -/
  limited {w d w' next} (h : Φ w (.returned d) w') (he : d.error = none)
      (hn : d.cursor? = some next) (limit : Value) : Φ w (.returned (d.failing (.pageLimit limit))) w'
  /-- The pagination has no bound, and runs out of fuel. -/
  spent {w d w' next} (h : Φ w (.returned d) w') (he : d.error = none)
      (hn : d.cursor? = some next) : Φ w .unfinished w'
  page {w d w₁ next outcome w'} (h : Φ w (.returned d) w₁) (he : d.error = none)
      (hn : d.cursor? = some next) (rest : Φ w₁ outcome w') :
      Φ w (outcome.map fun d' ↦ d'.after d.items) w'
  exhausted {w d w' e} (h : Φ w (.returned d) w') (he : d.error = some e)
      (errors : List Failure) : Φ w (.returned (d.failing (.exhausted errors))) w'
  again {w d w₁ e outcome w'} (h : Φ w (.returned d) w₁) (he : d.error = some e)
      (rest : Φ w₁ outcome w') : Φ w outcome w'

/-- Watching the quota keeps a statement: the probe adds nothing that matters to a
run, and a failure of its own may take the place of the ending. -/
def QuotaWatch.Keeps (Φ : Runs σ ι) (q : QuotaWatch σ) : Prop :=
  ∀ ⦃w outcome w' answer w''⦄, Φ w outcome w' → q.check w' = (answer, w'') →
    match answer with
    | .ok _ => Φ w outcome w''
    | .error f => Φ w (.raised f) w''

variable {Φ : Runs σ ι} {inner : Work σ ι}

theorem Work.Satisfies.stages (hw : inner.Satisfies Φ) {page : Int} {s s' : State σ ι}
    {r : Result σ ι} (h : inner page s = (.returned r, s')) : r.Stages := by
  obtain ⟨_, -, hd⟩ := hw.run h
  exact hd.stages rfl

/-! ## Layers and chains -/

/-- Every attempt starts from the buffer at entry, to which the savepoint cuts back. -/
theorem Retry.Attempts.closed (hΦ : Φ.Closed) (hw : inner.Satisfies Φ) {r : Retry} {page : Int}
    {base : List ι} {further : Nat} {errors : List Failure} {s s' : State σ ι}
    {ending : Ending (Result σ ι)}
    (h : r.Attempts inner page base.length further errors s ending s')
    (hbase : base <+: s.staged) :
    ∃ outcome, Φ s.world outcome s'.world ∧ Delivers base s'.staged ending outcome := by
  have hrun {s s' : State σ ι} {ending} (hbase : base <+: s.staged)
      (h : inner page (s.cut base.length) = (ending, s')) :
      ∃ outcome, Φ s.world outcome s'.world ∧ Delivers base s'.staged ending outcome := by
    have hrun := hw.run h
    rwa [State.staged_cut_of_isPrefix hbase] at hrun
  induction h with
  | raised h | unfinished h | settled h _ => exact hrun hbase h
  | exhausted h he _ =>
    obtain ⟨_, hrun, hd⟩ := hrun hbase h
    cases hd with
    | @returned d left =>
      exact ⟨_, hΦ.exhausted hrun he _, @Delivers.returned σ ι _ _ (d.failing _) left nofun⟩
  | again h he _ _ ih =>
    obtain ⟨_, hfirst, hd⟩ := hrun hbase h
    have hprefix := hw.appends.isPrefix
      (⟨[], by rw [State.staged_cut_of_isPrefix hbase, List.append_nil]⟩ : base <+: _) h
    cases hd with
    | returned =>
      obtain ⟨outcome, hrest, hd⟩ := ih hprefix
      exact ⟨outcome, hΦ.again hfirst he (hΦ.before rfl hrest), hd⟩

theorem Retry.satisfies_around (hΦ : Φ.Closed) (hw : inner.Satisfies Φ) (r : Retry) :
    (r.around inner).Satisfies Φ where
  appends := r.appends_around hw.appends
  run h := by
    rw [Retry.around_apply, Retry.attempt_eq_iff] at h
    exact h.closed hΦ hw List.prefix_rfl

/-- A page that has been staged belongs to what is delivered; the result holds nothing more. -/
theorem Work.Satisfies.applied (hw : inner.Satisfies Φ) {page : Int} {s s₁ s₂ : State σ ι}
    {r : Result σ ι} {ending : Ending Unit} (h : inner page s = (.returned r, s₁))
    (ha : r.apply s₁ = (ending, s₂)) :
    ending = .returned () ∧ ∃ d : Delivery ι, Φ s.world (.returned d) s₂.world ∧
      r.settled = (d.withItems []).result ∧ r.error = d.error ∧ r.cursor? = d.cursor? ∧
      (d.error = none → s₂.staged = s.staged ++ d.items) := by
  obtain ⟨_, hrun, hd⟩ := hw.run h
  cases hd with
  | @returned d left hstaged =>
    obtain ⟨rfl, rfl⟩ := Prod.mk.inj ha
    exact ⟨rfl, d, hrun, Delivery.settled_result _, rfl, rfl, hstaged⟩

theorem Pagination.Follows.closed (hΦ : Φ.Closed) (hw : inner.Satisfies Φ) {p : Pagination}
    {atBound : Result σ ι → Action σ ι (Result σ ι)} (hb : p.Stops atBound) {further : Nat}
    {page : Int} {s s' : State σ ι} {ending : Ending (Result σ ι)}
    (h : Follows inner atBound further page s ending s') :
    ∃ outcome, Φ s.world outcome s'.world ∧ Delivers s.staged s'.staged ending outcome := by
  induction h with
  | raised h | unfinished h => exact hw.run h
  | applyRaised h ha | applyUnfinished h ha => cases (hw.applied h ha).1
  | settled h ha _ =>
    obtain ⟨-, d, hrun, hsettled, -, -, hstaged⟩ := hw.applied h ha
    rw [hsettled]
    exact ⟨_, hrun, .returned fun he ↦ by rw [hstaged he, List.append_nil]⟩
  | bound h ha he hn hbound =>
    obtain ⟨-, d, hrun, hsettled, herror, hcursor, -⟩ := hw.applied h ha
    rw [herror] at he
    rw [hcursor] at hn
    obtain ⟨rfl, rfl | rfl⟩ := hb.eq hbound
    · rw [hsettled]
      exact ⟨_, hΦ.limited hrun he hn _, @Delivers.returned σ ι _ _ (d.failing _) [] nofun⟩
    · exact ⟨_, hΦ.spent hrun he hn, .unfinished⟩
  | more h ha he hn _ ih =>
    obtain ⟨-, d, hrun, -, herror, hcursor, hstaged⟩ := hw.applied h ha
    rw [herror] at he
    rw [hcursor] at hn
    obtain ⟨outcome, hrest, hd⟩ := ih
    rw [hstaged he] at hd
    exact ⟨_, hΦ.page hrun he hn hrest, hd.after⟩

theorem Pagination.satisfies_around (hΦ : Φ.Closed) (hw : inner.Satisfies Φ) (fuel : Nat)
    (p : Pagination) : (p.around fuel inner).Satisfies Φ where
  appends := p.appends_around hw.appends fuel
  run {page s ending s'} h := by
    obtain ⟨atBound, further, hb, haround⟩ := p.exists_around_eq fuel inner
    rw [haround, Pagination.follow_eq_iff] at h
    exact h.closed hΦ hw hb

theorem QuotaWatch.satisfies_around (hw : inner.Satisfies Φ) {q : QuotaWatch σ}
    (hq : q.Keeps Φ) : (q.around inner).Satisfies Φ where
  appends := q.appends_around hw.appends
  run h := by
    rcases q.around_cases h with ⟨hi, rfl⟩ | ⟨ending₁, s₁, answer, w', hi, _, hc, rfl, rfl⟩
    · exact hw.run hi
    · obtain ⟨outcome, hrun, hd⟩ := hw.run hi
      have hkept := hq hrun hc
      cases answer with
      | ok _ => exact ⟨outcome, hkept, hd⟩
      | error f => exact ⟨_, hkept, .raised⟩

theorem Layer.satisfies_recordAround (hΦ : Φ.Closed) (hw : inner.Satisfies Φ) (name : String) :
    (Layer.recordAround name inner).Satisfies Φ where
  appends := Layer.appends_recordAround hw.appends name
  run {page s ending s'} h := by
    rw [Layer.recordAround, Action.bind_of_returned (Action.record_eq _ s)] at h
    rcases hi : inner page (s.record (.entered name page)) with ⟨r | f | _, s₁⟩
    · rw [Action.bind_of_returned hi, Action.bind_of_returned (Action.record_eq _ s₁)] at h
      obtain ⟨rfl, rfl⟩ := Prod.mk.inj h
      obtain ⟨outcome, hrun, hd⟩ := hw.run hi
      exact ⟨outcome, hΦ.after rfl (hΦ.before rfl hrun), hd⟩
    · rw [Action.bind_of_raised hi] at h
      obtain ⟨rfl, rfl⟩ := Prod.mk.inj h
      obtain ⟨outcome, hrun, hd⟩ := hw.run hi
      exact ⟨outcome, hΦ.before rfl hrun, hd⟩
    · rw [Action.bind_of_unfinished hi] at h
      obtain ⟨rfl, rfl⟩ := Prod.mk.inj h
      obtain ⟨outcome, hrun, hd⟩ := hw.run hi
      exact ⟨outcome, hΦ.before rfl hrun, hd⟩

/-- A closed statement on the runs of a unit holds of its runs inside a chain, if the
quotas that the chain watches keep it. -/
theorem Chain.satisfies_around (hΦ : Φ.Closed) {chain : Chain σ}
    (hq : ∀ q, Layer.quota q ∈ chain → q.Keeps Φ) {unit : Work σ ι} (hu : unit.Satisfies Φ)
    (fuel : Nat) : (chain.around fuel unit).Satisfies Φ := by
  induction chain with
  | nil => exact hu
  | cons layer chain ih =>
    have hinner := ih fun q hmem ↦ hq q (List.mem_cons_of_mem _ hmem)
    rw [Chain.around_cons]
    cases layer with
    | quota q => exact QuotaWatch.satisfies_around hinner (hq q List.mem_cons_self)
    | retry r => exact Retry.satisfies_around hΦ hinner r
    | pagination p => exact Pagination.satisfies_around hΦ hinner fuel p
    | recorder name => exact Layer.satisfies_recordAround hΦ hinner name

end PullRelay
