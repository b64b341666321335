import PullRelay.Transport.Routes

/-!
# Queues of scripted routes

The entries of a script wait on routes, and the entries of one route wait in a queue
of their own.  A request is answered from the queue of its route
(`Routes.transport_congr`) and takes an entry from no other queue
(`Routes.queue_transport_of_ne`).  Scripts that agree on all routes but one
therefore go on agreeing, whatever is requested, and answer alike on all other routes
(`Routes.Agree`).
-/

namespace PullRelay

namespace Routes

section Take

variable {serves keep : RouteEntry → Bool}

/-- Entries that cannot serve do not matter. -/
theorem take?_filter (h : ∀ e, serves e = true → keep e = true) (entries : List RouteEntry) :
    take? serves (entries.filter keep) =
      (take? serves entries).map fun taken ↦ (taken.1, taken.2.filter keep) := by
  induction entries with
  | nil => rfl
  | cons e rest ih =>
    by_cases hserves : serves e = true
    · have hkeep := h e hserves
      cases hpersist : e.persist <;> simp [take?, hserves, hkeep, hpersist]
    · by_cases hkeep : keep e = true <;>
      simp [take?, hserves, hkeep, ih, Option.map_map, Function.comp_def]

/-- What is taken is the first entry that serves, and all others stay in their places. -/
theorem exists_append_of_take? {entries rest : List RouteEntry} {e : RouteEntry}
    (h : take? serves entries = some (e, rest)) :
    ∃ before after, entries = before ++ e :: after ∧ serves e = true ∧
      (∀ x ∈ before, serves x = false) ∧
      rest = if e.persist then entries else before ++ after := by
  induction entries generalizing rest with
  | nil => cases h
  | cons x entries ih =>
    by_cases hserves : serves x = true
    · rw [take?, if_pos hserves] at h
      obtain ⟨rfl, rfl⟩ := Prod.mk.inj (Option.some.inj h)
      exact ⟨[], entries, rfl, hserves, by simp, rfl⟩
    · rw [take?, if_neg hserves, Option.map_eq_some_iff] at h
      obtain ⟨⟨e', rest'⟩, htake, heq⟩ := h
      obtain ⟨rfl, hrest⟩ := Prod.mk.inj heq
      obtain ⟨before, after, rfl, he, hbefore, hrest'⟩ := ih htake
      refine ⟨x :: before, after, rfl, he, ?_, ?_⟩
      · exact List.forall_mem_cons.mpr ⟨by simpa using hserves, hbefore⟩
      · rw [← hrest, hrest']
        exact apply_ite (x :: ·) ..

/-- Where nothing is taken, nothing serves. -/
theorem forall_of_take?_eq_none {entries : List RouteEntry} (h : take? serves entries = none) :
    ∀ x ∈ entries, serves x = false := by
  induction entries with
  | nil => simp
  | cons x entries ih =>
    by_cases hserves : serves x = true
    · rw [take?, if_pos hserves] at h
      cases h
    · rw [take?, if_neg hserves, Option.map_eq_none_iff] at h
      exact List.forall_mem_cons.mpr ⟨by simpa using hserves, ih h⟩

/-- Taking an entry leaves those alone that cannot serve. -/
theorem filter_of_take? (h : ∀ e, serves e = true → keep e = false) {entries rest : List RouteEntry}
    {e : RouteEntry} (htake : take? serves entries = some (e, rest)) :
    rest.filter keep = entries.filter keep := by
  obtain ⟨before, after, rfl, hserves, -, rfl⟩ := exists_append_of_take? htake
  cases e.persist with
  | true => rfl
  | false => simp [h e hserves]

end Take

/-- The entries that wait on a route, in order. -/
def queue (m : Routes) (method path : String) : List RouteEntry :=
  m.entries.filter fun e ↦ e.method == method && e.path == path

/-- What serves on a route is taken from its queue. -/
theorem take?_queue (method path : String) (page : Option Int) (m : Routes) :
    take? (RouteEntry.serves method path page) (m.queue method path) =
      (take? (RouteEntry.serves method path page) m.entries).map fun taken ↦
        (taken.1, taken.2.filter fun e ↦ e.method == method && e.path == path) := by
  refine take?_filter (fun e he ↦ ?_) m.entries
  rw [RouteEntry.serves, Bool.and_eq_true] at he
  exact he.1

/-- An entry that waits first on a route is what a request gets that it serves, and goes unless
it persists. -/
theorem take?_of_queue {m : Routes} {method path : String} {page : Option Int} {e : RouteEntry}
    {rest : List RouteEntry} (hqueue : m.queue method path = e :: rest)
    (hserves : e.serves method path page = true) :
    ∃ entries, take? (RouteEntry.serves method path page) m.entries = some (e, entries) ∧
      entries.filter (fun e ↦ e.method == method && e.path == path) =
        if e.persist then e :: rest else rest := by
  have htaken : take? (RouteEntry.serves method path page) (m.queue method path) =
      some (e, if e.persist then e :: rest else rest) := by
    rw [hqueue, take?, if_pos hserves]
  rw [take?_queue, Option.map_eq_some_iff] at htaken
  obtain ⟨⟨e', entries⟩, htake, heq⟩ := htaken
  obtain ⟨rfl, hrest⟩ := Prod.mk.inj heq
  exact ⟨entries, htake, hrest⟩

/-- The script with a request on record. -/
def asked (m : Routes) (r : Request) : Routes :=
  { m with calls := m.calls ++ [{ r with method := Text.upper r.method }] }

theorem transport_of_error {r : Request} {fault : Fault} (h : pageOf r.params = .error fault)
    (m : Routes) : transport r m = (.error (.fault fault), m.asked r) := by
  simp only [transport, h]
  rfl

theorem transport_of_page {r : Request} {page : Option Int} (h : pageOf r.params = .ok page)
    (m : Routes) :
    transport r m =
      match take? (RouteEntry.serves (Text.upper r.method) r.path page) m.entries with
      | some (e, entries) => (.ok e.response, { m.asked r with entries })
      | none => (.ok notFound, m.asked r) := by
  simp only [transport, h]
  rfl

/-- Every request is kept, with its method in capital letters. -/
theorem calls_transport (r : Request) (m : Routes) :
    (transport r m).2.calls = (m.asked r).calls := by
  cases h : pageOf r.params with
  | error fault => rw [transport_of_error h]
  | ok page =>
    rw [transport_of_page h]
    split <;> rfl

/-- A request leaves the queues of other routes alone. -/
theorem queue_transport_of_ne {r : Request} {method path : String}
    (hne : ¬(Text.upper r.method = method ∧ r.path = path)) (m : Routes) :
    (transport r m).2.queue method path = m.queue method path := by
  cases h : pageOf r.params with
  | error fault =>
    rw [transport_of_error h]
    rfl
  | ok page =>
    rw [transport_of_page h]
    split
    next e entries htake =>
      refine filter_of_take? (fun e he ↦ ?_) htake
      simp only [RouteEntry.serves, Bool.and_eq_true, beq_iff_eq] at he
      obtain ⟨⟨hmethod, hpath⟩, -⟩ := he
      rw [hmethod, hpath]
      simpa [Bool.and_eq_true] using hne
    · rfl

/-- The answer to a request, and what it leaves of the queue, depend on the queue alone. -/
theorem transport_congr {r : Request} {m₁ m₂ : Routes}
    (h : m₁.queue (Text.upper r.method) r.path = m₂.queue (Text.upper r.method) r.path) :
    (transport r m₁).1 = (transport r m₂).1 ∧
      (transport r m₁).2.queue (Text.upper r.method) r.path =
        (transport r m₂).2.queue (Text.upper r.method) r.path := by
  cases hpage : pageOf r.params with
  | error fault =>
    rw [transport_of_error hpage, transport_of_error hpage]
    exact ⟨rfl, h⟩
  | ok page =>
    rw [transport_of_page hpage, transport_of_page hpage]
    have htaken := (take?_queue (Text.upper r.method) r.path page m₁).symm.trans
      ((congrArg _ h).trans (take?_queue (Text.upper r.method) r.path page m₂))
    cases h₁ : take? (RouteEntry.serves (Text.upper r.method) r.path page) m₁.entries with
    | none =>
      rw [h₁, Option.map_none, eq_comm, Option.map_eq_none_iff] at htaken
      rw [htaken]
      exact ⟨rfl, h⟩
    | some taken =>
      rw [h₁, Option.map_some, eq_comm, Option.map_eq_some_iff] at htaken
      obtain ⟨⟨e, rest⟩, h₂, heq⟩ := htaken
      obtain ⟨rfl, hrest⟩ := Prod.mk.inj heq
      rw [h₂]
      exact ⟨rfl, hrest.symm⟩

/-- The scripts agree on every route but one, and have been asked for the same. -/
structure Agree (method path : String) (m₁ m₂ : Routes) : Prop where
  queue : ∀ method' path', ¬(method' = method ∧ path' = path) →
    m₁.queue method' path' = m₂.queue method' path'
  calls : m₁.calls = m₂.calls

namespace Agree

variable {method path : String} {m₁ m₂ : Routes}

theorem refl (m : Routes) : Agree method path m m := ⟨fun _ _ _ ↦ rfl, rfl⟩

/-- Requests on other routes are answered alike. -/
theorem answer_eq (h : Agree method path m₁ m₂) {r : Request}
    (hr : ¬(Text.upper r.method = method ∧ r.path = path)) :
    (transport r m₁).1 = (transport r m₂).1 := (transport_congr (h.queue _ _ hr)).1

/-- Whatever is requested, the scripts go on agreeing. -/
theorem transport (h : Agree method path m₁ m₂) (r : Request) :
    Agree method path (Routes.transport r m₁).2 (Routes.transport r m₂).2 where
  queue method' path' hother := by
    by_cases hr : Text.upper r.method = method' ∧ r.path = path'
    · obtain ⟨rfl, rfl⟩ := hr
      exact (transport_congr (h.queue _ _ hother)).2
    · rw [queue_transport_of_ne hr, queue_transport_of_ne hr, h.queue _ _ hother]
  calls := by rw [calls_transport, calls_transport, asked, asked, h.calls]

end Agree

end Routes

end PullRelay
