import PullRelay.Proofs.Client.Answers
import PullRelay.Proofs.Transport.Queues

/-!
# Calls do not depend on the quota

A probe of the quota ends each call of a client from settings.  Whatever is scripted
for it, the call itself goes the same way (`Client.run_of_agree`): two scripts that
agree on every route but that of the quota lead to the same outcome, the same requests
on all other routes and the same pauses, and the probe comes last.

Without its watch a client never asks for the quota, so it runs alike on such scripts;
`Client.standard_run_eq` adds the probe.
-/

namespace PullRelay

variable {σ ι : Type}

/-- Machines related by `R` answer the requests that are such as `p` says in the same way,
and go on being related. -/
structure Transport.Respects (t : Transport σ) (R : σ → σ → Prop) (p : Request → Prop) : Prop where
  answer {r m₁ m₂} (hr : p r) (h : R m₁ m₂) : (t r m₁).1 = (t r m₂).1
  machine {r m₁ m₂} (hr : p r) (h : R m₁ m₂) : R (t r m₁).2 (t r m₂).2

namespace Transport.Respects

variable {t : Transport σ} {R : σ → σ → Prop} {p : Request → Prop} {m₁ m₂ : σ}
  {events : List Event}

theorem matches_self (ht : t.Respects R p) : t.Matches t R p := ⟨ht.answer, ht.machine⟩

/-- So they are related after quiet events. -/
theorem machineAfter (ht : t.Respects R p) (h : R m₁ m₂) (hquiet : ∀ e ∈ events, e.IsQuiet p) :
    R (t.machineAfter m₁ events) (t.machineAfter m₂ events) :=
  ht.matches_self.machineAfter h fun _ hr ↦ hquiet _ hr

/-- And they give the same answers along them. -/
theorem exchanges_eq (ht : t.Respects R p) (h : R m₁ m₂) (hquiet : ∀ e ∈ events, e.IsQuiet p) :
    t.exchanges m₁ events = t.exchanges m₂ events :=
  ht.matches_self.exchanges_eq h fun _ hr ↦ hquiet _ hr

end Transport.Respects

/-- Without its watch a call does the same where its requests are answered alike. -/
theorem Client.run_of_respects {t : Transport σ} {R : σ → σ → Prop} {p : Request → Prop}
    (ht : t.Respects R p) {s : Settings} {op : Operation}
    (hp : ∀ r, op.call.Asks (.int s.perPage) r → p r) (fuel : Nat) (w₀ : World σ) :
    ∃ ending events, (∀ e ∈ events, Event.IsQuiet p e) ∧ ∀ w, R w₀.machine w.machine →
      (unwatched t s).run fuel op w = (ending, w.after t events) := by
  obtain ⟨ending, events, hasks, hrun⟩ := unwatched_run_alike s op fuel t w₀
  have hquiet (e) (he : e ∈ events) : Event.IsQuiet p e := (hasks e he).mono hp
  exact ⟨ending, events, hquiet, fun w hw ↦ hrun t w (ht.exchanges_eq hw hquiet).symm⟩

namespace Routes

/-- Requests on other routes leave the queue of a route alone. -/
theorem queue_machineAfter_of_ne {method path : String} {events : List Event}
    (h : ∀ e ∈ events,
      Event.IsQuiet (fun r ↦ ¬(Text.upper r.method = method ∧ r.path = path)) e) (m : Routes) :
    (transport.machineAfter m events).queue method path = m.queue method path := by
  induction events generalizing m with
  | nil => rfl
  | cons e events ih =>
    have hrest (e) (he : e ∈ events) := h e (List.mem_cons_of_mem _ he)
    have he := h e List.mem_cons_self
    cases e with
    | requested r => exact (ih hrest _).trans (queue_transport_of_ne he m)
    | _ => exact ih hrest m

/-- In particular those with other paths do. -/
theorem queue_machineAfter (method : String) {path : String} {events : List Event}
    (h : ∀ e ∈ events, Event.IsQuiet (·.path ≠ path) e) (m : Routes) :
    (transport.machineAfter m events).queue method path = m.queue method path :=
  queue_machineAfter_of_ne (fun e he ↦ (h e he).mono fun _ hne hsame ↦ hne hsame.2) m

end Routes

/-- A script for one comment, and nothing else. -/
def Routes.comments : Routes where
  entries := [{ method := "POST", path := "/repos/o/r/issues/1/comments", status := 201 }]

/-- The same script, with a failure of the connection for each probe. -/
def Routes.commentsOnly : Routes where
  entries := [{ method := "GET", path := "/rate_limit", persist := true, failure := "down" },
    { method := "POST", path := "/repos/o/r/issues/1/comments", status := 201 }]

end PullRelay
