import PullRelay.Proofs.Client.Standard
import PullRelay.Rehearsal

/-!
# What a probe does to an ending

A watch asks for the quota after the work that it surrounds, whatever may answer.  If the
answer is a snapshot or a failure of the pipeline, the work ends as it would without the watch.
Any other failure takes the place of the ending, whether the work has returned or raised
(`QuotaWatch.around_keeps_ending_iff`): only failures of the pipeline are caught.
-/

namespace PullRelay

variable {σ ι : Type}

namespace QuotaWatch

/-- The probe fails in a way that is none of the pipeline's. -/
def Escapes (outcome : Except Failure QuotaSnapshot) (f : Failure) : Prop :=
  outcome = .error f ∧ f.isPipeline = false

theorem verdict_of_escapes {outcome : Except Failure QuotaSnapshot} {f : Failure}
    (h : Escapes outcome f) : verdict outcome = .error f := by
  obtain ⟨rfl, hf⟩ := h
  rw [verdict, hf]
  rfl

theorem verdict_of_not_escapes {outcome : Except Failure QuotaSnapshot}
    (h : ∀ f, ¬Escapes outcome f) : ∃ snapshot, verdict outcome = .ok snapshot := by
  rcases hverdict : verdict outcome with f | snapshot
  · exact absurd (of_verdict_eq_error hverdict) (h f)
  · exact ⟨snapshot, rfl⟩

/-- A watch leaves the ending of the work as it is unless its probe fails in a way that is none
of the pipeline's, and with another failure than the one that the work has raised.  Then that
failure is raised instead.  The buffer is left alone in any case. -/
theorem around_keeps_ending_iff {q : QuotaWatch σ} {inner : Work σ ι} {page : Int}
    {s s' : State σ ι} {ending : Ending (Result σ ι)} {outcome : Except Failure QuotaSnapshot}
    {w : World σ} (h : inner page s = (ending, s')) (hend : ending ≠ .unfinished)
    (hfetch : q.fetch s'.world = (outcome, w)) :
    ((q.around inner page s).1 = ending ↔ ∀ f, Escapes outcome f → ending = .raised f) ∧
    (∀ f, Escapes outcome f → (q.around inner page s).1 = .raised f) ∧
    (q.around inner page s).2.staged = s'.staged := by
  -- The notices of a check are no requests, so that any transport will do.
  have hcheck := check_eq hfetch fun _ m ↦ (.error default, m)
  have haround := around_of_check h hend hcheck
  have hraised (f) (hf : Escapes outcome f) : (q.around inner page s).1 = .raised f := by
    rw [haround, verdict_of_escapes hf]
    rfl
  refine ⟨⟨?_, ?_⟩, hraised, ?_⟩
  · intro hkept f hf
    rw [← hkept, hraised f hf]
  · intro hsame
    by_cases hescapes : ∃ f, Escapes outcome f
    · obtain ⟨f, hf⟩ := hescapes
      rw [hraised f hf, hsame f hf]
    · obtain ⟨snapshot, hverdict⟩ := verdict_of_not_escapes (not_exists.mp hescapes)
      rw [haround, hverdict]
      rfl
  · rw [haround]

/-- A watch whose probes fail like this. -/
def failing (f : Failure) : QuotaWatch Rehearsal.Machine := ⟨Rehearsal.probe 0 [.raises f], 10⟩

/-- Work that is answered well. -/
def answered : Work Rehearsal.Machine Value :=
  (Rehearsal.Script.sequence [.yields 200 none none []]).unit

/-- A failed probe does not matter, but a probe that cannot use a value does. -/
theorem failing_keeps_ending_iff :
    let s : State Rehearsal.Machine Value := { world := { machine := {} } }
    ∃ result s', answered noPage s = (.returned result, s') ∧
      ((failing (.probe "boom")).around answered noPage s).1 = .returned result ∧
      ((failing (.foreign .value "boom")).around answered noPage s).1 =
        .raised (.foreign .value "boom") := by
  intro s
  obtain ⟨result, s', h⟩ : ∃ result s', answered noPage s = (.returned result, s') := ⟨_, _, rfl⟩
  have hend : (.returned result : Ending (Result Rehearsal.Machine Value)) ≠ .unfinished := nofun
  have hprobe (f) : ((failing f).fetch s'.world).1 = .error f := by
    obtain ⟨-, rfl⟩ := Prod.mk.inj h
    rfl
  refine ⟨result, s', h, ?_, ?_⟩
  · refine (around_keeps_ending_iff h hend rfl).1.mpr ?_
    rintro f ⟨hf, hescapes⟩
    rw [hprobe, Except.error.injEq] at hf
    subst hf
    cases hescapes
  · exact (around_keeps_ending_iff h hend rfl).2.1 _ ⟨hprobe _, rfl⟩

/-- The failure of a probe that cannot use a value is raised in the place of a good result. -/
theorem failing_not_kept :
    ¬∀ (q : QuotaWatch Rehearsal.Machine) (inner : Work Rehearsal.Machine Value) (page : Int)
      (s : State Rehearsal.Machine Value), (inner page s).1 ≠ .unfinished →
      (q.around inner page s).1 = (inner page s).1 := by
  intro h
  have hkept := h (failing (.foreign .value "boom")) answered noPage { world := { machine := {} } }
    nofun
  cases hkept

end QuotaWatch

end PullRelay
