import PullRelay.Proofs.Transport.Queues

/-!
# The ledger of a script

Entries of a script come and go: they are added, answer requests, and are used up.  A
`Ledger` keeps book of them.  It holds every entry that was added, in order, the entries
that wait, each with its place in that order, and those that have answered.  What a step
does by the book (`Ledger.Takes`) is said of places alone, without queues and routes: a
request is answered by the first waiting entry that serves it, and this one is struck out
unless it persists.

Whatever is done with scripted routes goes by the book (`Routes.exists_ledger`).  The
invariant is `Ledger.Tracks`: what waits in the script is what waits in the ledger, and what
waits in the ledger is what was added and is not used up.
-/

namespace PullRelay

/-! ## Steps -/

/-- Something done with scripted routes. -/
inductive Routes.Step where
  | add (e : RouteEntry)
  | fail (method path message : String) (persist : Bool)
  | request (r : Request)

namespace Routes

/-- The entry that a step adds, as it waits on its route. -/
def Step.entry? : Step → Option RouteEntry
  | .add e => some { e with method := Text.upper e.method }
  | .fail method path message persist =>
    some { method := Text.upper method, path, status := 0, persist, failure := message }
  | .request _ => none

/-- The request that a step makes. -/
def Step.request? : Step → Option Request
  | .request r => some r
  | _ => none

/-- Take a step; a request has an answer. -/
def step (m : Routes) : Step → List (Except Failure Response) × Routes
  | .add e => ([], m.add e)
  | .fail method path message persist => ([], m.addFailure method path message persist)
  | .request r => ([(transport r m).1], (transport r m).2)

/-- Take steps in order, and collect the answers. -/
def play : List Step → Routes → List (Except Failure Response) × Routes
  | [], m => ([], m)
  | x :: steps, m =>
    let rest := play steps (m.step x).2
    ((m.step x).1 ++ rest.1, rest.2)

/-- A step that adds an entry lets it wait after all others. -/
theorem step_of_entry {x : Step} {e : RouteEntry} (h : x.entry? = some e) (m : Routes) :
    m.step x = ([], { m with entries := m.entries ++ [e] }) := by
  cases x with
  | add e' => rw [← Option.some.inj h]; rfl
  | fail method path message persist => rw [← Option.some.inj h]; rfl
  | request r => cases h

end Routes

/-! ## Ledgers -/

/-- The entries of a script: all that were added, those that wait, and those that have
answered, the latter two with their places among the first. -/
structure Ledger where
  registered : List RouteEntry := []
  waiting : List (Nat × RouteEntry) := []
  served : List (Nat × RouteEntry) := []

namespace Ledger

/-- Add an entry, which waits after all others. -/
def register (l : Ledger) (e : RouteEntry) : Ledger :=
  { l with
    registered := l.registered ++ [e]
    waiting := l.waiting ++ [(l.registered.length, e)] }

/-- Let an entry answer.  If it does not persist, only the others go on waiting. -/
def serve (l : Ledger) (x : Nat × RouteEntry) (others : List (Nat × RouteEntry)) : Ledger :=
  { l with
    waiting := if x.2.persist then l.waiting else others
    served := l.served ++ [x] }

/-- What a step does by the book, and how it is answered. -/
inductive Takes (l : Ledger) :
    Routes.Step → List (Except Failure Response) → Ledger → Prop
  | registers {x e} (h : x.entry? = some e) : Takes l x [] (l.register e)
  /-- The first waiting entry for the route and the page answers, and stays in its place if it
  persists; all others stay in any case. -/
  | serves {r page before x after} (hpage : Routes.pageOf r.params = .ok page)
      (hwaiting : l.waiting = before ++ x :: after)
      (hserves : x.2.serves (Text.upper r.method) r.path page = true)
      (hfirst : ∀ y ∈ before, y.2.serves (Text.upper r.method) r.path page = false) :
      Takes l (.request r) [.ok x.2.response] (l.serve x (before ++ after))
  | finds_none {r page} (hpage : Routes.pageOf r.params = .ok page)
      (hnone : ∀ x ∈ l.waiting, x.2.serves (Text.upper r.method) r.path page = false) :
      Takes l (.request r) [.ok Routes.notFound] l
  | unreadable {r fault} (hpage : Routes.pageOf r.params = .error fault) :
      Takes l (.request r) [.error (.fault fault)] l

/-- Steps by the book, with all answers in order. -/
inductive Run : Ledger → List Routes.Step → List (Except Failure Response) → Ledger → Prop
  | nil {l} : Run l [] [] l
  | cons {l x answers l₁ steps rest l'} (h : l.Takes x answers l₁) (hrest : Run l₁ steps rest l') :
      Run l (x :: steps) (answers ++ rest) l'

/-- Steps add the entries that they hold, in order. -/
theorem Run.registered_eq {l l' : Ledger} {steps : List Routes.Step}
    {answers : List (Except Failure Response)} (h : Run l steps answers l') :
    l'.registered = l.registered ++ steps.filterMap Routes.Step.entry? := by
  induction h with
  | nil => exact (List.append_nil _).symm
  | cons hx _ ih =>
    rw [ih]
    cases hx with
    | registers he => simp [register, he]
    | serves | finds_none | unreadable => rfl

/-- The ledger is that of a script with these entries. -/
structure Tracks (l : Ledger) (entries : List RouteEntry) : Prop where
  entries_eq : entries = l.waiting.map (·.2)
  sorted : l.waiting.Pairwise (·.1 < ·.1)
  mem_waiting_iff : ∀ x, x ∈ l.waiting ↔
    l.registered[x.1]? = some x.2 ∧ (x.2.persist = true ∨ x ∉ l.served)
  registered_of_served : ∀ x ∈ l.served, l.registered[x.1]? = some x.2
  once : ((l.served.filter fun x ↦ !x.2.persist).map (·.1)).Nodup
  balance : ∀ p : RouteEntry → Bool, (∀ e, p e = true → e.persist = false) →
    (l.registered.filter p).Perm
      ((l.served.map (·.2)).filter p ++ (l.waiting.map (·.2)).filter p)

variable {l : Ledger} {entries : List RouteEntry}

theorem tracks_empty : Tracks {} [] := by
  constructor <;> simp

namespace Tracks

/-- A place that waits or has answered is that of an entry that was added. -/
theorem lt_length {i : Nat} {e : RouteEntry} (h : l.registered[i]? = some e) :
    i < l.registered.length := (List.getElem?_eq_some_iff.mp h).1

theorem register (h : l.Tracks entries) (e : RouteEntry) :
    (l.register e).Tracks (entries ++ [e]) where
  entries_eq := by simp [Ledger.register, h.entries_eq]
  sorted := by
    refine List.pairwise_append.mpr ⟨h.sorted, List.pairwise_singleton _ _, fun x hx y hy ↦ ?_⟩
    obtain rfl := List.mem_singleton.mp hy
    exact lt_length ((h.mem_waiting_iff x).mp hx).1
  mem_waiting_iff x := by
    obtain ⟨i, e'⟩ := x
    show (i, e') ∈ l.waiting ++ [(l.registered.length, e)] ↔
      (l.registered ++ [e])[i]? = some e' ∧ (e'.persist = true ∨ (i, e') ∉ l.served)
    rw [List.mem_append, List.mem_singleton, h.mem_waiting_iff]
    by_cases hi : i < l.registered.length
    · have hne : (i, e') ≠ (l.registered.length, e) := fun heq ↦ by
        cases heq
        exact Nat.lt_irrefl _ hi
      rw [List.getElem?_append_left hi]
      exact or_iff_left hne
    · have hserved : (i, e') ∉ l.served := fun hx ↦ hi (lt_length (h.registered_of_served _ hx))
      have hold : l.registered[i]? = none := List.getElem?_eq_none (Nat.le_of_not_lt hi)
      rw [List.getElem?_append_right (Nat.le_of_not_lt hi), List.getElem?_singleton]
      simp only [hold, hserved, Prod.mk.injEq, reduceCtorEq, false_or, not_false_iff, or_true,
        and_true, eq_comm (a := e')]
      grind
  registered_of_served x hx := by
    have hold := h.registered_of_served x hx
    exact (List.getElem?_append_left (lt_length hold)).trans hold
  once := h.once
  balance p hp := by
    have hbalance := (h.balance p hp).append_right ([e].filter p)
    simpa [Ledger.register, List.filter_append] using hbalance

section Serve

variable {before after : List (Nat × RouteEntry)} {x : Nat × RouteEntry}

/-- An entry that answers goes on waiting if it persists, and all others do in any case. -/
theorem mem_serve_iff (h : l.Tracks entries) (hwaiting : l.waiting = before ++ x :: after)
    (y : Nat × RouteEntry) : y ∈ (l.serve x (before ++ after)).waiting ↔
      y ∈ l.waiting ∧ (y.2.persist = true ∨ y ≠ x) := by
  have hsorted := h.sorted
  rw [hwaiting, List.pairwise_append, List.pairwise_cons] at hsorted
  obtain ⟨-, ⟨hafter, -⟩, hbefore⟩ := hsorted
  have hne : y ∈ before ++ after → y ≠ x := by
    rintro hy rfl
    rcases List.mem_append.mp hy with hy | hy
    · exact Nat.lt_irrefl _ (hbefore y hy y List.mem_cons_self)
    · exact Nat.lt_irrefl _ (hafter y hy)
  unfold Ledger.serve
  dsimp only
  split
  next hpersist =>
    refine ⟨fun hy ↦ ⟨hy, ?_⟩, And.left⟩
    by_cases hyx : y = x
    · exact .inl (hyx ▸ hpersist)
    · exact .inr hyx
  next hpersist =>
    rw [hwaiting]
    refine ⟨fun hy ↦ ⟨?_, .inr (hne hy)⟩, fun ⟨hy, hother⟩ ↦ ?_⟩
    · exact List.mem_append.mpr ((List.mem_append.mp hy).imp_right (List.mem_cons_of_mem _))
    · have hyx : y ≠ x := hother.elim (fun hy hyx ↦ hpersist (hyx ▸ hy)) id
      simpa [hyx] using hy

/-- An entry that does not persist has not answered as long as it waits. -/
theorem notMem_places (h : l.Tracks entries) (hx : x ∈ l.waiting) (hpersist : x.2.persist = false) :
    x.1 ∉ l.served.map (·.1) := by
  obtain ⟨hregistered, hleft⟩ := (h.mem_waiting_iff x).mp hx
  rintro hplace
  obtain ⟨y, hy, hyx⟩ := List.mem_map.mp hplace
  have hsame : y = x := by
    refine Prod.ext hyx (Option.some.inj ?_)
    rw [← h.registered_of_served y hy, hyx, hregistered]
  rcases hleft with hpersists | hserved
  · rw [hpersist] at hpersists
    cases hpersists
  · exact hserved (hsame ▸ hy)

theorem serve (h : l.Tracks entries) (hwaiting : l.waiting = before ++ x :: after) :
    (l.serve x (before ++ after)).Tracks
      (if x.2.persist then entries else (before ++ after).map (·.2)) where
  entries_eq := by
    rw [h.entries_eq]
    unfold Ledger.serve
    split <;> rfl
  sorted := by
    have hothers : (before ++ after).Sublist l.waiting :=
      hwaiting ▸ (List.sublist_cons_self x after).append_left before
    unfold Ledger.serve
    dsimp only
    split
    · exact h.sorted
    · exact h.sorted.sublist hothers
  mem_waiting_iff y := by
    rw [h.mem_serve_iff hwaiting, h.mem_waiting_iff]
    show _ ↔ l.registered[y.1]? = some y.2 ∧ (y.2.persist = true ∨ y ∉ l.served ++ [x])
    rw [List.mem_append, List.mem_singleton, not_or, and_assoc, or_and_left]
  registered_of_served y hy := by
    rcases List.mem_append.mp hy with hy | hy
    · exact h.registered_of_served y hy
    · obtain rfl := List.mem_singleton.mp hy
      exact ((h.mem_waiting_iff y).mp (by simp [hwaiting])).1
  once := by
    show (((l.served ++ [x]).filter fun y ↦ !y.2.persist).map (·.1)).Nodup
    rw [List.filter_append, List.map_append]
    cases hpersist : x.2.persist with
    | true => simpa [hpersist] using h.once
    | false =>
      have hplace := h.notMem_places (by simp [hwaiting]) hpersist
      have hlast : ([x].filter fun y ↦ !y.2.persist).map (·.1) = [x.1] := by simp [hpersist]
      rw [hlast]
      refine List.nodup_append.mpr ⟨h.once, by simp, fun i hi j hj hij ↦ hplace ?_⟩
      obtain ⟨y, hy, hyi⟩ := List.mem_map.mp hi
      rw [← List.mem_singleton.mp hj, ← hij, ← hyi]
      exact List.mem_map_of_mem (List.mem_filter.mp hy).1
  balance p hp := by
    have hbalance := h.balance p hp
    show (l.registered.filter p).Perm
      (((l.served ++ [x]).map (·.2)).filter p ++ ((l.serve x _).waiting.map (·.2)).filter p)
    rw [List.map_append, List.filter_append, List.append_assoc]
    unfold Ledger.serve
    dsimp only
    cases hpersist : x.2.persist with
    | true =>
      have hx : p x.2 = false := Bool.eq_false_iff.mpr fun hx ↦ by simp [hp _ hx] at hpersist
      simpa [hx] using hbalance
    | false =>
      rw [hwaiting, ← List.singleton_append, List.map_append, List.map_append, List.filter_append,
        List.filter_append] at hbalance
      rw [if_neg Bool.false_ne_true, List.map_append, List.filter_append]
      exact hbalance.trans ((List.perm_append_comm_assoc ..).append_left _)

end Serve

end Tracks

/-- A request goes by the book. -/
theorem Tracks.exists_takes_request {m : Routes} (h : l.Tracks m.entries) (r : Request) :
    ∃ l', l.Takes (.request r) [(Routes.transport r m).1] l' ∧
      l'.Tracks (Routes.transport r m).2.entries := by
  cases hpage : Routes.pageOf r.params with
  | error fault =>
    rw [Routes.transport_of_error hpage]
    exact ⟨l, .unreadable hpage, h⟩
  | ok page =>
    rw [Routes.transport_of_page hpage]
    cases htake : Routes.take? (RouteEntry.serves (Text.upper r.method) r.path page) m.entries with
    | none =>
      refine ⟨l, .finds_none hpage fun x hx ↦ ?_, h⟩
      refine Routes.forall_of_take?_eq_none htake x.2 ?_
      rw [h.entries_eq]
      exact List.mem_map_of_mem hx
    | some taken =>
      obtain ⟨e, entries⟩ := taken
      obtain ⟨before, after, hentries, hserves, hfirst, rfl⟩ := Routes.exists_append_of_take? htake
      -- The entries around the one that is taken have places of their own in the ledger.
      obtain ⟨before', rest, hwaiting, rfl, hrest⟩ :=
        List.map_eq_append_iff.mp (h.entries_eq.symm.trans hentries)
      obtain ⟨x, after', rfl, rfl, rfl⟩ := List.map_eq_cons_iff.mp hrest
      refine ⟨_, .serves hpage hwaiting hserves fun y hy ↦ ?_, ?_⟩
      · exact hfirst y.2 (List.mem_map_of_mem hy)
      · have hserved := h.serve hwaiting
        rwa [List.map_append] at hserved

/-- One step goes by the book. -/
theorem Tracks.exists_takes {m : Routes} (h : l.Tracks m.entries) (x : Routes.Step) :
    ∃ l', l.Takes x (m.step x).1 l' ∧ l'.Tracks (m.step x).2.entries := by
  cases he : x.entry? with
  | some e =>
    rw [Routes.step_of_entry he]
    exact ⟨l.register e, .registers he, h.register e⟩
  | none =>
    cases x with
    | add e => cases he
    | fail method path message persist => cases he
    | request r => exact h.exists_takes_request r

/-- And so do all steps, one after the other. -/
theorem Tracks.exists_run {m : Routes} (h : l.Tracks m.entries) (steps : List Routes.Step) :
    ∃ l', Run l steps (Routes.play steps m).1 l' ∧ l'.Tracks (Routes.play steps m).2.entries := by
  induction steps generalizing l m with
  | nil => exact ⟨l, .nil, h⟩
  | cons x steps ih =>
    obtain ⟨l₁, htakes, h₁⟩ := h.exists_takes x
    obtain ⟨l', hrun, h'⟩ := ih h₁
    exact ⟨l', .cons htakes hrun, h'⟩

end Ledger

namespace Routes

/-- The requests of all steps are kept, with their methods in capital letters. -/
theorem calls_play (steps : List Step) (m : Routes) :
    (play steps m).2.calls = m.calls ++
      (steps.filterMap Step.request?).map fun r ↦ { r with method := Text.upper r.method } := by
  induction steps generalizing m with
  | nil => exact (List.append_nil _).symm
  | cons x steps ih =>
    refine (ih (m.step x).2).trans ?_
    cases x with
    | add | fail => rfl
    | request r =>
      have hcalls : (m.step (.request r)).2.calls = (m.asked r).calls := calls_transport r m
      rw [hcalls, asked, List.append_assoc]
      rfl

end Routes

/-! ## Whole runs -/

/-- The entry is on this route, and is used up by answering. -/
def RouteEntry.isOnceOn (method path : String) (e : RouteEntry) : Bool :=
  !e.persist && (e.method == method && e.path == path)

/-- Whatever is added to scripted routes and requested of them, there is a ledger by which all
of it goes, what waits in the script is what waits in the ledger, and the same is true after
whatever comes next.  The ledger holds what the steps add.  Of that, in the order in which it
was added, what persists and what has not answered waits.  No entry answers twice without
persisting, so that the entries of each route that do not persist are those that have answered
and those that wait.  All requests are on record. -/
theorem Routes.exists_ledger (steps : List Step) :
    ∃ l : Ledger, Ledger.Run {} steps (play steps {}).1 l ∧
      (play steps {}).2.entries = l.waiting.map (·.2) ∧
      (∀ x, ∃ l', l.Takes x ((play steps {}).2.step x).1 l' ∧
        ((play steps {}).2.step x).2.entries = l'.waiting.map (·.2)) ∧
      l.registered = steps.filterMap Step.entry? ∧
      l.waiting.Pairwise (·.1 < ·.1) ∧
      (∀ i e, (i, e) ∈ l.waiting ↔
        l.registered[i]? = some e ∧ (e.persist = true ∨ (i, e) ∉ l.served)) ∧
      ((l.served.filter fun x ↦ !x.2.persist).map (·.1)).Nodup ∧
      (∀ method path, (l.registered.filter (RouteEntry.isOnceOn method path)).Perm
        ((l.served.map (·.2)).filter (RouteEntry.isOnceOn method path) ++
          ((play steps {}).2.queue method path).filter (!·.persist))) ∧
      (play steps {}).2.calls =
        (steps.filterMap Step.request?).map fun r ↦ { r with method := Text.upper r.method } := by
  obtain ⟨l, hrun, h⟩ := Ledger.tracks_empty.exists_run (m := {}) steps
  refine ⟨l, hrun, h.entries_eq, fun x ↦ ?_, hrun.registered_eq, h.sorted,
    fun i e ↦ h.mem_waiting_iff (i, e), h.once, fun method path ↦ ?_, calls_play steps {}⟩
  · obtain ⟨l', htakes, h'⟩ := h.exists_takes x
    exact ⟨l', htakes, h'.entries_eq⟩
  · rw [queue, List.filter_filter, h.entries_eq]
    refine h.balance (RouteEntry.isOnceOn method path) fun e he ↦ ?_
    rw [RouteEntry.isOnceOn, Bool.and_eq_true, Bool.not_eq_true'] at he
    exact he.1

end PullRelay
