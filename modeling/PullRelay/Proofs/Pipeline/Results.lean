import PullRelay.Proofs.Pipeline.Loops

/-!
# What work returns

A layer returns a result that the work inside of it returned, or what it makes of one: with
the items staged, or with another failure that is not worth another attempt.  A statement
on results that survives these two changes is true of all that a chain returns if it is
of all that its unit returns (`Chain.returns_around`).
-/

namespace PullRelay

variable {σ ι : Type}

/-- Every result that the work returns is such as `P` says. -/
def Work.Returns (P : Result σ ι → Prop) (work : Work σ ι) : Prop :=
  ∀ ⦃page s r s'⦄, work page s = (.returned r, s') → P r

/-- A statement on results that survives what layers make of them. -/
structure Result.Survives (P : Result σ ι → Prop) : Prop where
  settled {r} (h : P r) : P r.settled
  failing {r} (h : P r) {e : Failure} (he : e.isRetryable = false) : P (r.failing e)

variable {P : Result σ ι → Prop} {inner : Work σ ι}

/-- What a retry returns comes from its last attempt: the result as it is, if the retry stops
there, or with the failures of all attempts in the place of its own. -/
theorem Retry.Attempts.returns {r : Retry} {page : Int} {savepoint further : Nat}
    {errors : List Failure} {s s' : State σ ι} {ending : Ending (Result σ ι)}
    (settled : ∀ {s result s'}, inner page s = (.returned result, s') →
      (∀ e, result.error = some e → r.accepts e = false) → P result)
    (exhausted : ∀ {s result s'} errors, inner page s = (.returned result, s') →
      P (result.failing (.exhausted errors)))
    (h : r.Attempts inner page savepoint further errors s ending s') {result : Result σ ι}
    (hresult : ending = .returned result) : P result := by
  induction h with
  | raised => cases hresult
  | unfinished => cases hresult
  | settled h stop =>
    cases hresult
    exact settled h stop
  | exhausted h =>
    cases hresult
    exact exhausted _ h
  | again _ _ _ _ ih => exact ih hresult

theorem Retry.returns_around (hP : Result.Survives P) (hw : inner.Returns P) (r : Retry) :
    (r.around inner).Returns P := by
  intro page s result s' h
  rw [Retry.around_apply, Retry.attempt_eq_iff] at h
  refine h.returns ?_ ?_ rfl
  · intro _ _ _ hinner _
    exact hw hinner
  · intro _ _ _ errors hinner
    exact hP.failing (hw hinner) rfl

/-- What a pagination returns is the result of its last page, with nothing left to stage, or
the page limit at its bound. -/
theorem Pagination.Follows.returns {p : Pagination}
    {atBound : Result σ ι → Action σ ι (Result σ ι)} (hb : p.Stops atBound) {further : Nat}
    {page : Int} {s s' : State σ ι} {ending : Ending (Result σ ι)}
    (settled : ∀ {page s result s'}, inner page s = (.returned result, s') →
      (result.error = none → result.cursor? = none) → P result.settled)
    (limited : ∀ {page s result s'} limit, inner page s = (.returned result, s') →
      P (result.settled.failing (.pageLimit limit)))
    (h : Follows inner atBound further page s ending s') {result : Result σ ι}
    (hresult : ending = .returned result) : P result := by
  induction h with
  | raised => cases hresult
  | unfinished => cases hresult
  | applyRaised => cases hresult
  | applyUnfinished => cases hresult
  | settled h _ stop =>
    cases hresult
    exact settled h stop
  | bound h _ _ _ hbound =>
    subst hresult
    rcases (hb.eq hbound).2 with hlimit | hspent
    · cases hlimit
      exact limited _ h
    · cases hspent
  | more _ _ _ _ _ ih => exact ih hresult

theorem Pagination.returns_around (hP : Result.Survives P) (hw : inner.Returns P) (fuel : Nat)
    (p : Pagination) : (p.around fuel inner).Returns P := by
  intro page s result s' h
  obtain ⟨atBound, further, hb, haround⟩ := p.exists_around_eq fuel inner
  rw [haround, Pagination.follow_eq_iff] at h
  refine h.returns hb ?_ ?_ rfl
  · intro _ _ _ _ hinner _
    exact hP.settled (hw hinner)
  · intro _ _ _ _ limit hinner
    exact hP.failing (hP.settled (hw hinner)) rfl

theorem QuotaWatch.returns_around (hw : inner.Returns P) (q : QuotaWatch σ) :
    (q.around inner).Returns P := by
  intro page s result s' h
  rcases q.around_cases h with ⟨_, hend⟩ | ⟨ending, s₁, answer, w', hi, _, _, rfl, hend⟩
  · cases hend
  · cases answer with
    | ok _ =>
      subst hend
      exact hw hi
    | error f => cases hend

theorem Layer.returns_recordAround (hw : inner.Returns P) (name : String) :
    (Layer.recordAround name inner).Returns P := by
  intro page s result s' h
  rw [Layer.recordAround, Action.bind_of_returned (Action.record_eq _ s)] at h
  rcases hi : inner page (s.record (.entered name page)) with ⟨r | f | _, s₁⟩
  · rw [Action.bind_of_returned hi] at h
    obtain ⟨⟨⟩, -⟩ := Prod.mk.inj h
    exact hw hi
  · rw [Action.bind_of_raised hi] at h
    cases h
  · rw [Action.bind_of_unfinished hi] at h
    cases h

/-- What survives the layers is true of all that a chain returns, if it is of its unit. -/
theorem Chain.returns_around (hP : Result.Survives P) {unit : Work σ ι} (hu : unit.Returns P)
    (fuel : Nat) (chain : Chain σ) : (chain.around fuel unit).Returns P := by
  induction chain with
  | nil => exact hu
  | cons layer chain ih =>
    rw [Chain.around_cons]
    cases layer with
    | quota q => exact QuotaWatch.returns_around ih q
    | retry r => exact Retry.returns_around hP ih r
    | pagination p => exact Pagination.returns_around hP ih fuel p
    | recorder name => exact Layer.returns_recordAround ih name

end PullRelay
