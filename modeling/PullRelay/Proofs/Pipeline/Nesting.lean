import PullRelay.Proofs.Pipeline.Results
import PullRelay.Rehearsal

/-!
# Layers inside layers of their kind

A retry around another one, or a pagination around another one, could multiply the
attempts or the pages of a call.  It does not: the work around the inner layer returns
nothing that the outer one would act on.  What a retry returns is a success or not worth
another attempt (`Result.IsFinal`), and what a pagination returns is staged already and
names no further page unless it failed (`Result.IsWhole`).

Both survive what any layers around make of a result (`Chain.returns_around`), and a
layer around work that returns only such results does nothing
(`Retry.around_eq_of_isFinal`, `Pagination.around_eq_of_isWhole`).  Hence the outer one
of two layers of a kind may be taken out of a chain (`Chain.around_eq_of_repeats`).
-/

namespace PullRelay

variable {σ ι : Type}

/-- The work does not look at the page it is run for. -/
def Work.IgnoresPage (work : Work σ ι) : Prop := ∀ page page', work page = work page'

namespace Result

/-- A success, or a failure that is not worth another attempt by default. -/
def IsFinal (r : Result σ ι) : Prop := ∀ e, r.error = some e → e.isRetryable = false

/-- Nothing is left to stage, and no further page is named unless there is a failure. -/
structure IsWhole (r : Result σ ι) : Prop where
  applied : r.apply = pure ()
  last : r.error = none → r.cursor? = none

theorem survives_isFinal : Survives (IsFinal (σ := σ) (ι := ι)) where
  settled h := h
  failing := by
    rintro r - e he e' ⟨⟩
    exact he

theorem survives_isWhole : Survives (IsWhole (σ := σ) (ι := ι)) where
  settled h := ⟨rfl, h.last⟩
  failing h _ _ := ⟨h.applied, by simp⟩

end Result

/-- A retry returns successes, and failures that it would not try again after. -/
theorem Retry.returns_isFinal {r : Retry} (hr : r.accepts = Failure.isRetryable)
    (inner : Work σ ι) : (r.around inner).Returns Result.IsFinal := by
  intro page s result s' h
  rw [Retry.around_apply, Retry.attempt_eq_iff] at h
  refine h.returns ?_ ?_ rfl
  · intro _ _ _ _ stop e he
    rw [← hr]
    exact stop e he
  · rintro _ _ _ errors - e ⟨⟩
    rfl

/-- A pagination stages its pages, and names a further page with a failure only. -/
theorem Pagination.returns_isWhole (fuel : Nat) (p : Pagination) (inner : Work σ ι) :
    (p.around fuel inner).Returns Result.IsWhole := by
  intro page s result s' h
  obtain ⟨atBound, further, hb, haround⟩ := p.exists_around_eq fuel inner
  rw [haround, Pagination.follow_eq_iff] at h
  refine h.returns hb ?_ ?_ rfl
  · intro _ _ result _ _ stop
    exact ⟨rfl, stop⟩
  · intro _ _ result _ limit _
    exact ⟨rfl, by simp⟩

section Around

variable {inner : Work σ ι}

/-- A retry runs work once that never asks for another attempt. -/
theorem Retry.around_eq_of_isFinal {r : Retry} (hr : r.accepts = Failure.isRetryable)
    (hw : inner.Returns Result.IsFinal) : r.around inner = inner := by
  funext page s
  rw [Retry.around_apply]
  -- Nothing has been staged since the savepoint, so the first attempt runs from where it is.
  have hcut : s.cut s.staged.length = s := by rw [State.cut, List.take_length]
  rcases h : inner page s with ⟨result | f | _, s'⟩
  · have hstop (e) (he : result.error = some e) : r.accepts e = false := by
      rw [hr]
      exact hw h e he
    exact (Attempts.settled (hcut.symm ▸ h) hstop).attempt_eq
  · exact (Attempts.raised (hcut.symm ▸ h)).attempt_eq
  · exact (Attempts.unfinished (hcut.symm ▸ h)).attempt_eq

/-- A pagination runs work once that stages its own pages. -/
theorem Pagination.around_eq_of_isWhole (hw : inner.Returns Result.IsWhole)
    (hpage : inner.IgnoresPage) (fuel : Nat) (p : Pagination) : p.around fuel inner = inner := by
  obtain ⟨atBound, further, -, haround⟩ := p.exists_around_eq fuel inner
  funext page s
  rw [haround, hpage page firstPage]
  rcases h : inner firstPage s with ⟨result | f | _, s'⟩
  · have happly : result.apply s' = (.returned (), s') := by rw [(hw h).applied]; rfl
    have hsettled : result.settled = result := by rw [Result.settled, ← (hw h).applied]
    rw [(Follows.settled h happly (hw h).last).follow_eq, hsettled]
  · exact (Follows.raised h).follow_eq
  · exact (Follows.unfinished h).follow_eq

theorem Retry.Attempts.of_page {r : Retry} {page page' : Int} (hpage : inner page = inner page')
    {savepoint further : Nat} {errors : List Failure} {s s' : State σ ι}
    {ending : Ending (Result σ ι)}
    (h : r.Attempts inner page savepoint further errors s ending s') :
    r.Attempts inner page' savepoint further errors s ending s' := by
  induction h with
  | raised h => exact .raised (hpage ▸ h)
  | unfinished h => exact .unfinished (hpage ▸ h)
  | settled h stop => exact .settled (hpage ▸ h) stop
  | exhausted h he ha => exact .exhausted (hpage ▸ h) he ha
  | again h he ha _ ih => exact .again (hpage ▸ h) he ha ih

theorem Retry.ignoresPage_around (hw : inner.IgnoresPage) (r : Retry) :
    (r.around inner).IgnoresPage := by
  intro page page'
  funext s
  obtain ⟨ending, s', h⟩ := exists_attempts r inner page s.staged.length r.further [] s
  rw [around_apply, around_apply, h.attempt_eq, (h.of_page (hw page page')).attempt_eq]

theorem QuotaWatch.ignoresPage_around (hw : inner.IgnoresPage) (q : QuotaWatch σ) :
    (q.around inner).IgnoresPage := by
  intro page page'
  rw [around, around, hw page page']

theorem Pagination.ignoresPage_around (fuel : Nat) (p : Pagination) (inner : Work σ ι) :
    (p.around fuel inner).IgnoresPage := fun _ _ ↦ rfl

end Around

namespace Layer

/-- A watch, a pagination, or a retry with the default classifier. -/
def IsDefault : Layer σ → Prop
  | .quota _ | .pagination _ => True
  | .retry r => r.accepts = Failure.isRetryable
  | .recorder _ => False

/-- Two retries, or two paginations. -/
def Repeats : Layer σ → Layer σ → Prop
  | .retry _, .retry _ => True
  | .pagination _, .pagination _ => True
  | _, _ => False

end Layer

namespace Chain

variable {chain : Chain σ}

/-- A chain with a retry returns successes, and failures that are not worth another attempt. -/
theorem returns_isFinal {r : Retry} (hmem : Layer.retry r ∈ chain)
    (hr : r.accepts = Failure.isRetryable) (fuel : Nat) (unit : Work σ ι) :
    (chain.around fuel unit).Returns Result.IsFinal := by
  obtain ⟨before, after, rfl⟩ := List.append_of_mem hmem
  rw [around_append, around_cons]
  exact returns_around Result.survives_isFinal (Retry.returns_isFinal hr _) fuel before

/-- A chain with a pagination returns what is staged, and names no further page. -/
theorem returns_isWhole {p : Pagination} (hmem : Layer.pagination p ∈ chain) (fuel : Nat)
    (unit : Work σ ι) : (chain.around fuel unit).Returns Result.IsWhole := by
  obtain ⟨before, after, rfl⟩ := List.append_of_mem hmem
  rw [around_append, around_cons]
  exact returns_around Result.survives_isWhole (Pagination.returns_isWhole fuel p _) fuel before

/-- A chain with a pagination starts over from the first page, unless a recorder notes the
page that it was run for. -/
theorem ignoresPage_around (hchain : ∀ layer ∈ chain, layer.IsDefault) {p : Pagination}
    (hmem : Layer.pagination p ∈ chain) (fuel : Nat) (unit : Work σ ι) :
    (chain.around fuel unit).IgnoresPage := by
  induction chain with
  | nil => cases hmem
  | cons layer chain ih =>
    rw [around_cons]
    have htail (layer) (h : layer ∈ chain) : layer.IsDefault :=
      hchain layer (List.mem_cons_of_mem _ h)
    rcases List.mem_cons.mp hmem with rfl | hmem
    · exact Pagination.ignoresPage_around fuel p _
    · have hinner := ih htail hmem
      cases layer with
      | quota q => exact QuotaWatch.ignoresPage_around hinner q
      | retry r => exact Retry.ignoresPage_around hinner r
      | pagination p' => exact Pagination.ignoresPage_around fuel p' _
      | recorder name => exact (hchain _ List.mem_cons_self).elim

/-- A layer around another one of its kind may be taken out: whatever the unit of work and
the state it is run from, the chain ends in the same way, with the same result to apply,
and leaves the same machine, the same trace and the same buffer behind. -/
theorem around_eq_of_repeats {outer inner : Chain σ} {layer deeper : Layer σ}
    (hchain : ∀ l ∈ layer :: inner, l.IsDefault) (hdeeper : deeper ∈ inner)
    (hrepeats : layer.Repeats deeper) (fuel : Nat) (unit : Work σ ι) :
    Chain.around fuel (outer ++ layer :: inner) unit = Chain.around fuel (outer ++ inner) unit := by
  have hlayer : layer.IsDefault := hchain layer List.mem_cons_self
  have hinner (l) (h : l ∈ inner) : l.IsDefault := hchain l (List.mem_cons_of_mem _ h)
  suffices h : layer.around fuel (Chain.around fuel inner unit) = Chain.around fuel inner unit by
    rw [around_append, around_append, around_cons, h]
  cases layer with
  | retry r =>
    cases deeper with
    | retry r' =>
      exact Retry.around_eq_of_isFinal hlayer (returns_isFinal hdeeper (hinner _ hdeeper) fuel unit)
    | _ => exact hrepeats.elim
  | pagination p =>
    cases deeper with
    | pagination p' =>
      exact Pagination.around_eq_of_isWhole (returns_isWhole hdeeper fuel unit)
        (ignoresPage_around hinner hdeeper fuel unit) fuel p
    | _ => exact hrepeats.elim
  | quota q => exact hrepeats.elim
  | recorder name => exact hlayer.elim

/-- Two attempts at each page. -/
def patientPages : Chain Rehearsal.Machine :=
  [.pagination .unbounded, .quota ⟨Rehearsal.probe 0 [], 100⟩,
    .retry (.ofAttempts 2 .nan Failure.isRetryable)]

/-- Three attempts at all pages around them. -/
def patientCalls : Layer Rehearsal.Machine := .retry (.ofAttempts 3 .nan Failure.isRetryable)

/-- A unit whose connection is always lost. -/
def lost : Work Rehearsal.Machine Value :=
  (Rehearsal.Script.sequence [.yields 0 none (some (.transport "lost")) []]).unit

/-- It is run twice, not six times. -/
theorem patientCalls_repeats :
    (∀ l ∈ patientCalls :: patientPages, l.IsDefault) ∧
    Chain.around 5 ([.pagination .unbounded] ++ patientCalls :: patientPages) lost =
      Chain.around 5 ([.pagination .unbounded] ++ patientPages) lost ∧
    (Chain.around 5 (patientCalls :: patientPages) lost noPage
      { world := { machine := {} } }).2.world.machine.calls = 2 := by
  have hdefault : ∀ l ∈ patientCalls :: patientPages, l.IsDefault := by
    simp [patientCalls, patientPages, Layer.IsDefault, Retry.ofAttempts]
  have hdeeper : .retry (.ofAttempts 2 .nan Failure.isRetryable) ∈ patientPages := by
    simp [patientPages]
  exact ⟨hdefault, around_eq_of_repeats hdefault hdeeper trivial 5 lost, by decide +kernel⟩

end Chain

end PullRelay
