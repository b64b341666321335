import PullRelay.Transport.Basic

/-!
# Exchanges of a trace

A trace holds the requests that went out, not how they were answered.  The
answers can be played again: the machine changes by requests alone, so a transport
and the machine at the start give the answer to each request of a trace
(`Transport.exchanges`) and the machine after it (`World.after`).  That a run
leaves behind exactly the world after its trace is proved of each computation that
talks to the outside (`Outside.Over`), not assumed here.

Two transports may give the same answers without having the same machines: it is enough that
answers agree wherever the machines are related, and that the relation lasts
(`Transport.Matches`).
-/

namespace PullRelay

variable {σ α : Type}

/-- The request that an event is, if it is one. -/
def Event.request? : Event → Option Request
  | .requested r => some r
  | _ => none

theorem Event.requested_notMem_singleton {e : Event} (he : e.request? = none) (r : Request) :
    Event.requested r ∉ [e] := by
  rintro h
  rw [List.mem_singleton] at h
  subst h
  cases he

/-- The requests among events, in order. -/
def requestsOf (events : List Event) : List Request := events.filterMap Event.request?

@[simp] theorem requestsOf_append (xs ys : List Event) :
    requestsOf (xs ++ ys) = requestsOf xs ++ requestsOf ys := List.filterMap_append

theorem mem_requestsOf_iff {events : List Event} {r : Request} :
    r ∈ requestsOf events ↔ .requested r ∈ events := by
  rw [requestsOf, List.mem_filterMap]
  constructor
  · rintro ⟨e, he, hr⟩
    cases e with
    | requested _ => exact Option.some.inj hr ▸ he
    | _ => cases hr
  · exact fun h ↦ ⟨.requested r, h, rfl⟩

/-- A request of this method and path. -/
def Request.isOn (method path : String) (r : Request) : Bool :=
  r.method == method && r.path == path

@[simp] theorem Request.isOn_eq_true_iff {method path : String} {r : Request} :
    r.isOn method path = true ↔ r.method = method ∧ r.path = path := by simp [isOn]

/-- A request and what came back. -/
structure Exchange where
  request : Request
  answer : Except Failure Response

namespace Transport

variable (t : Transport σ)

/-- The machine after the requests of a trace. -/
def machineAfter : σ → List Event → σ
  | m, [] => m
  | m, e :: events =>
    match e.request? with
    | some r => machineAfter (t r m).2 events
    | none => machineAfter m events

/-- The requests of a trace with their answers, in order. -/
def exchanges : σ → List Event → List Exchange
  | _, [] => []
  | m, e :: events =>
    match e.request? with
    | some r => ⟨r, (t r m).1⟩ :: exchanges (t r m).2 events
    | none => exchanges m events

@[simp] theorem machineAfter_nil (m : σ) : t.machineAfter m [] = m := rfl

@[simp] theorem exchanges_nil (m : σ) : t.exchanges m [] = [] := rfl

theorem machineAfter_append (m : σ) (xs ys : List Event) :
    t.machineAfter m (xs ++ ys) = t.machineAfter (t.machineAfter m xs) ys := by
  induction xs generalizing m with
  | nil => rfl
  | cons e xs ih =>
    simp only [List.cons_append, machineAfter]
    cases e.request? with
    | none => exact ih m
    | some r => exact ih _

theorem exchanges_append (m : σ) (xs ys : List Event) :
    t.exchanges m (xs ++ ys) = t.exchanges m xs ++ t.exchanges (t.machineAfter m xs) ys := by
  induction xs generalizing m with
  | nil => rfl
  | cons e xs ih =>
    simp only [List.cons_append, exchanges, machineAfter]
    cases e.request? with
    | none => exact ih m
    | some r => exact congrArg _ (ih _)

/-- Each request of a trace is answered. -/
theorem map_request_exchanges (m : σ) (events : List Event) :
    (t.exchanges m events).map (·.request) = requestsOf events := by
  induction events generalizing m with
  | nil => rfl
  | cons e events ih =>
    cases e with
    | requested r => exact congrArg (r :: ·) (ih _)
    | _ => exact ih m

/-- Machines that give the same answers along a trace do so along each part of it. -/
theorem exchanges_append_inj {σ₀ : Type} {t₀ : Transport σ₀} {m : σ} {m₀ : σ₀} {xs ys : List Event}
    (h : t.exchanges m (xs ++ ys) = t₀.exchanges m₀ (xs ++ ys)) :
    t.exchanges m xs = t₀.exchanges m₀ xs ∧
      t.exchanges (t.machineAfter m xs) ys = t₀.exchanges (t₀.machineAfter m₀ xs) ys := by
  rw [exchanges_append, exchanges_append] at h
  refine List.append_inj h ?_
  have hrequests := (t.map_request_exchanges m xs).trans (t₀.map_request_exchanges m₀ xs).symm
  simpa using congrArg List.length hrequests

/-- Only requests change the machine. -/
theorem machineAfter_of_forall {events : List Event} (h : ∀ e ∈ events, e.request? = none) (m : σ) :
    t.machineAfter m events = m := by
  induction events with
  | nil => rfl
  | cons e events ih =>
    simp only [machineAfter, h e List.mem_cons_self]
    exact ih fun e he ↦ h e (List.mem_cons_of_mem _ he)

/-- A log that each request adds to holds all requests of a trace, in order. -/
theorem log_machineAfter {log : σ → List α} {f : Request → α} {events : List Event}
    (h : ∀ r ∈ requestsOf events, ∀ m, log (t r m).2 = log m ++ [f r]) (m : σ) :
    log (t.machineAfter m events) = log m ++ (requestsOf events).map f := by
  induction events generalizing m with
  | nil => exact (List.append_nil _).symm
  | cons e events ih =>
    cases e with
    | requested r =>
      obtain ⟨hr, hrest⟩ := List.forall_mem_cons.mp h
      show log (t.machineAfter (t r m).2 events) = _
      rw [ih hrest, hr, List.append_assoc]
      rfl
    | _ => exact ih h m

/-- Only the requests of a trace are answered. -/
theorem exists_requested_of_mem {m : σ} {events : List Event} {x : Exchange}
    (h : x ∈ t.exchanges m events) : Event.requested x.request ∈ events := by
  induction events generalizing m with
  | nil => cases h
  | cons e events ih =>
    simp only [exchanges] at h
    cases e with
    | requested r =>
      rcases List.mem_cons.mp h with rfl | h
      · exact List.mem_cons_self
      · exact List.mem_cons_of_mem _ (ih h)
    | _ => exact List.mem_cons_of_mem _ (ih h)

/-- The exchanges on the route of a method and a path. -/
def exchangesOn (method path : String) (m : σ) (events : List Event) : List Exchange :=
  (t.exchanges m events).filter fun x ↦ x.request.isOn method path

theorem exchangesOn_append (method path : String) (m : σ) (xs ys : List Event) :
    t.exchangesOn method path m (xs ++ ys) =
      t.exchangesOn method path m xs ++ t.exchangesOn method path (t.machineAfter m xs) ys := by
  simp [exchangesOn, exchanges_append]

/-- Without a request on a route nothing is exchanged there. -/
theorem exchangesOn_eq_nil {method path : String} {m : σ} {events : List Event}
    (h : ∀ r, Event.requested r ∈ events → r.isOn method path = false) :
    t.exchangesOn method path m events = [] := by
  rw [exchangesOn, List.filter_eq_nil_iff]
  intro x hx
  rw [h _ (t.exists_requested_of_mem hx)]
  exact Bool.false_ne_true

end Transport

/-! ## Transports that give the same answers -/

/-- Machines of two transports that are related by `R` answer the requests that are such as `p`
says in the same way, and go on being related. -/
structure Transport.Matches {σ₁ σ₂ : Type} (t₁ : Transport σ₁) (t₂ : Transport σ₂)
    (R : σ₁ → σ₂ → Prop) (p : Request → Prop) : Prop where
  answer {r m₁ m₂} (hr : p r) (h : R m₁ m₂) : (t₁ r m₁).1 = (t₂ r m₂).1
  machine {r m₁ m₂} (hr : p r) (h : R m₁ m₂) : R (t₁ r m₁).2 (t₂ r m₂).2

namespace Transport.Matches

variable {σ₁ σ₂ : Type} {t₁ : Transport σ₁} {t₂ : Transport σ₂} {R : σ₁ → σ₂ → Prop}
  {p : Request → Prop} {m₁ : σ₁} {m₂ : σ₂} {events : List Event}

/-- So they are related after events whose requests are such. -/
theorem machineAfter (ht : t₁.Matches t₂ R p) (h : R m₁ m₂)
    (hp : ∀ r, Event.requested r ∈ events → p r) :
    R (t₁.machineAfter m₁ events) (t₂.machineAfter m₂ events) := by
  induction events generalizing m₁ m₂ with
  | nil => exact h
  | cons e events ih =>
    have hrest (r) (hr : Event.requested r ∈ events) := hp r (List.mem_cons_of_mem _ hr)
    cases e with
    | requested r => exact ih (ht.machine (hp r List.mem_cons_self) h) hrest
    | _ => exact ih h hrest

/-- And they give the same answers along them. -/
theorem exchanges_eq (ht : t₁.Matches t₂ R p) (h : R m₁ m₂)
    (hp : ∀ r, Event.requested r ∈ events → p r) :
    t₁.exchanges m₁ events = t₂.exchanges m₂ events := by
  induction events generalizing m₁ m₂ with
  | nil => rfl
  | cons e events ih =>
    have hrest (r) (hr : Event.requested r ∈ events) := hp r (List.mem_cons_of_mem _ hr)
    cases e with
    | requested r =>
      have hr := hp r List.mem_cons_self
      simp only [exchanges, Event.request?, ht.answer hr h, ih (ht.machine hr h) hrest]
    | _ => exact ih h hrest

end Transport.Matches

/-- The world after events that happen from now on. -/
def World.after (t : Transport σ) (w : World σ) (events : List Event) : World σ where
  machine := t.machineAfter w.machine events
  trace := w.trace ++ events

namespace World

variable {t : Transport σ} {w : World σ}

@[simp] theorem machine_after (events : List Event) :
    (w.after t events).machine = t.machineAfter w.machine events := rfl

@[simp] theorem trace_after (events : List Event) :
    (w.after t events).trace = w.trace ++ events := rfl

@[simp] theorem after_nil : w.after t [] = w := by simp [after]

@[simp] theorem after_after (xs ys : List Event) :
    (w.after t xs).after t ys = w.after t (xs ++ ys) := by
  simp [after, Transport.machineAfter_append]

/-- What is no request changes the trace alone. -/
theorem record_eq_after {e : Event} (h : e.request? = none) : w.record e = w.after t [e] := by
  simp [record, after, Transport.machineAfter, h]

end World

/-! ## Computations over a transport -/

/-- The computation changes the outside by requests over the transport and by what is
no request, all of it on record, and its requests are such as `p` says. -/
def Outside.Over (t : Transport σ) (p : Request → Prop) (m : Outside σ α) : Prop :=
  ∀ w, ∃ events, (m w).2 = w.after t events ∧ ∀ r, Event.requested r ∈ events → p r

end PullRelay
