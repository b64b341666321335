import PullRelay.Client.Basic
import PullRelay.Proofs.Pipeline.Closure

/-!
# Calls of a client

How the parts of a call act on the outside, each said once.  A unit of work sends
one request and hands back what the response comes to (`Client.unit_apply`).  A
probe of the quota sends one request, and its own failures are those of a probe
(`QuotaSnapshot.fetch_over`, `QuotaSnapshot.ofResponse_isPipeline`).  A call
answers with what its chain delivers (`Client.exists_outcome_run`): the items of a
delivery without an error make the answer, and any other error or failure is raised.
-/

namespace PullRelay

variable {σ ι : Type}

/-- The request of a probe. -/
def QuotaSnapshot.request : Request := { method := "GET", path }

/-! ## Pages -/

namespace Response

variable {n : Nat} {response : Response} {fault : Fault}

/-- A refusal has no text if the message has none, or the status. -/
theorem refusal_error_iff :
    response.refusal n = .error fault ↔
      response.message.textWithin n = .error fault ∨
        (∃ detail, response.message.textWithin n = .ok detail) ∧
          ¬Numeral.IsReadable response.status ∧ fault = .numberTooLong := by
  unfold refusal
  cases response.message.textWithin n with
  | error fault' => simp [bind, Except.bind]
  | ok detail =>
    by_cases h : Numeral.IsReadable response.status <;>
      simp [h, bind, Except.bind, pure, Except.pure, throw, throwThe, MonadExceptOf.throw, eq_comm]

theorem refusal_ok_iff {e : Failure} :
    response.refusal n = .ok e ↔
      ∃ detail, response.message.textWithin n = .ok detail ∧ Numeral.IsReadable response.status ∧
        e = .remote response.status detail := by
  unfold refusal
  cases response.message.textWithin n with
  | error fault => simp [bind, Except.bind]
  | ok detail =>
    by_cases h : Numeral.IsReadable response.status <;>
      simp [h, bind, Except.bind, pure, Except.pure, throw, throwThe, MonadExceptOf.throw, eq_comm]

theorem failure?_error_iff :
    response.failure? n = .error fault ↔
      response.error = none ∧ 404 ≤ response.status ∧ response.refusal n = .error fault := by
  unfold failure?
  cases response.error with
  | some e => simp
  | none =>
    by_cases h : 404 ≤ response.status
    · cases response.refusal n <;> simp [h, Except.map]
    · simp [h]

theorem failure?_some_iff {e : Failure} :
    response.failure? n = .ok (some e) ↔
      response.error = some e ∨
        response.error = none ∧ 404 ≤ response.status ∧ response.refusal n = .ok e := by
  unfold failure?
  cases response.error with
  | some e' => simp
  | none =>
    by_cases h : 404 ≤ response.status
    · cases response.refusal n <;> simp [h, Except.map]
    · simp [h]

end Response

namespace Call

variable {call : Call ι} {room : Room} {response : Response}

/-- A page that is not read is refused without a text, or the fault is not the payload's. -/
theorem readPage_error_iff {fault : Fault} :
    call.readPage room response = .error fault ↔
      response.failure? room.message = .error fault ∨
        response.failure? room.message = .ok none ∧
          call.read room response.payload = .error fault ∧ fault.blamesPayload = false := by
  rcases hf : response.failure? room.message with fault' | _ | e
  · rw [readPage, hf]
    simp [bind, Except.bind]
  · rw [readPage_of_good hf]
    cases call.read room response.payload with
    | ok items => simp
    | error fault' =>
      by_cases hblame : fault'.blamesPayload
      · simp only [hblame, if_true, reduceCtorEq, true_and, false_or, false_iff]
        rintro ⟨⟨⟩, hfault⟩
        exact Bool.false_ne_true (hfault.symm.trans hblame)
      · simp only [hblame, Bool.false_eq_true, if_false, reduceCtorEq, Except.error.injEq,
          true_and, false_or]
        refine ⟨?_, And.left⟩
        rintro rfl
        exact ⟨rfl, Bool.eq_false_iff.mpr hblame⟩
  · rw [readPage_of_failure hf]
    simp

/-- The page of a response: it has failed, or what is read of it is good or malformed. -/
inductive Page (call : Call ι) (room : Room) (response : Response) :
    List ι → Option Failure → Prop
  | failed {e} (h : response.failure? room.message = .ok (some e)) :
    Page call room response [] (some e)
  | read {items} (hgood : response.failure? room.message = .ok none)
      (h : call.read room response.payload = .ok items) : Page call room response items none
  | malformed {fault} (hgood : response.failure? room.message = .ok none)
      (h : call.read room response.payload = .error fault) :
    Page call room response [] (some (call.malformed fault))

theorem page_of_readPage {items : List ι} {error : Option Failure}
    (h : call.readPage room response = .ok (items, error)) :
    call.Page room response items error := by
  rcases hf : response.failure? room.message with fault' | _ | e
  · rw [readPage, hf] at h
    cases h
  · rw [readPage_of_good hf] at h
    split at h
    next items' hread =>
      cases h
      exact .read hf hread
    next fault hread =>
      split at h <;> cases h
      exact .malformed hf hread
  · rw [readPage_of_failure hf] at h
    cases h
    exact .failed hf

end Call

/-! ## Units of work -/

namespace Call

/-- A response comes to its items and its failure, and to the page that follows. -/
theorem result_eq_ok {call : Call ι} {room : Room} {response : Response} {r : Result σ ι}
    (h : call.result room response = .ok r) :
    ∃ items error next, call.readPage room response = .ok (items, error) ∧
      call.nextPage response = .ok next ∧
      r = { apply := Action.stage items, status := response.status, next, error } := by
  unfold Call.result at h
  rcases hp : call.readPage room response with fault | ⟨items, error⟩
  · rw [hp] at h; cases h
  · rcases hn : call.nextPage response with fault | next
    · rw [hp, hn] at h; cases h
    · rw [hp, hn] at h
      cases h
      exact ⟨items, error, next, rfl, rfl, rfl⟩

theorem stages_of_result {call : Call ι} {room : Room} {response : Response} {r : Result σ ι}
    (h : call.result room response = .ok r) : r.Stages := by
  obtain ⟨items, _, _, _, _, rfl⟩ := result_eq_ok h
  exact ⟨items, rfl⟩

end Call

/-- How a unit of work ends, by the answer to its request. -/
def Call.ending (call : Call ι) (room : Room) : Except Failure Response → Ending (Result σ ι)
  | .error f => .raised f
  | .ok response =>
    match call.result room response with
    | .ok r => .returned r
    | .error fault => .raised (.fault fault)

/-- What a unit of work delivers, by the answer to its request. -/
def Call.outcome (call : Call ι) (room : Room) : Except Failure Response → Ending (Delivery ι)
  | .error f => .raised f
  | .ok response =>
    match call.readPage room response, call.nextPage response with
    | .ok (items, error), .ok next => .returned { items, status := response.status, next, error }
    | .ok _, .error fault => .raised (.fault fault)
    | .error fault, _ => .raised (.fault fault)

theorem Call.ending_eq (call : Call ι) (room : Room) (answer : Except Failure Response) :
    (call.ending room answer : Ending (Result σ ι)) =
      (call.outcome room answer).map Delivery.result := by
  cases answer with
  | error f => rfl
  | ok response =>
    simp only [ending, outcome, result]
    rcases call.readPage room response with fault | ⟨items, error⟩
    · rfl
    · cases call.nextPage response <;> rfl

/-- If a unit of work delivers something, there was a response, and it was read. -/
theorem Call.outcome_eq_returned {call : Call ι} {room : Room} {answer : Except Failure Response}
    {d : Delivery ι} (h : call.outcome room answer = .returned d) :
    ∃ response, answer = .ok response ∧ call.readPage room response = .ok (d.items, d.error) ∧
      call.nextPage response = .ok d.next := by
  cases answer with
  | error f => cases h
  | ok response =>
    refine ⟨response, rfl, ?_⟩
    unfold outcome at h
    rcases hpage : call.readPage room response with fault | ⟨items, error⟩
    · simp [hpage] at h
    · cases hnext : call.nextPage response with
      | error fault => simp [hpage, hnext] at h
      | ok next =>
        simp only [hpage, hnext, Ending.returned.injEq] at h
        subst h
        exact ⟨rfl, rfl⟩

/-- A unit of work is one request; the answer decides how it ends. -/
theorem Client.unit_apply (c : Client σ) (call : Call ι) (page : Int) (s : State σ ι) :
    c.unit call page s =
      (call.ending c.room (c.transport (call.request c.perPage page) s.world.machine).1,
        { s with
          world := s.world.after c.transport [.requested (call.request c.perPage page)] }) := by
  unfold unit
  rw [Action.bind_apply, Action.ofOutside]
  cases h : (c.transport (call.request c.perPage page) s.world.machine).1 with
  | error f => simp only [Transport.request, h]; rfl
  | ok response =>
    simp only [Transport.request, h, Call.ending]
    cases call.result (σ := σ) c.room response <;> rfl

/-- If a unit of work returns, there was a response, and it came to the result. -/
theorem Call.ending_eq_returned {call : Call ι} {room : Room} {answer : Except Failure Response}
    {r : Result σ ι} (h : call.ending room answer = .returned r) :
    ∃ response, answer = .ok response ∧ call.result room response = .ok r := by
  cases answer with
  | error f => cases h
  | ok response =>
    refine ⟨response, rfl, ?_⟩
    unfold Call.ending at h
    cases hr : call.result (σ := σ) room response with
    | error fault => simp [hr] at h
    | ok r' => simpa [hr] using h

/-- Units of work leave the buffer to their results. -/
theorem Client.appends_unit (c : Client σ) (call : Call ι) : (c.unit call).Appends where
  run page := by
    intro s
    simp only [Client.unit_apply]
    exact List.prefix_rfl
  returns := by
    intro page s r s' h
    rw [Client.unit_apply, Call.ending_eq] at h
    cases hd : call.outcome c.room
      (c.transport (call.request c.perPage page) s.world.machine).1 with
    | returned d =>
      rw [hd] at h
      cases h
      exact Action.appends_stage d.items
    | raised f | unfinished =>
      rw [hd] at h
      cases h

/-- What is true of each request and what it delivers is true of all runs of a unit. -/
theorem Client.unit_satisfies {Φ : Runs σ ι} {c : Client σ} {call : Call ι}
    (h : ∀ page (w : World σ),
      Φ w (call.outcome c.room (c.transport (call.request c.perPage page) w.machine).1)
        (w.after c.transport [.requested (call.request c.perPage page)])) :
    (c.unit call).Satisfies Φ where
  appends := c.appends_unit call
  run {page s ending s'} hs := by
    rw [unit_apply, Call.ending_eq] at hs
    obtain ⟨rfl, rfl⟩ := Prod.mk.inj hs
    exact ⟨_, h page s.world, .of_result ..⟩

namespace Operation

/-- Methods are written in capital letters. -/
theorem upper_method (op : Operation) : Text.upper op.method = op.method := by
  have hupper : ∀ method ∈ ["GET", "POST", "PATCH", "DELETE"], Text.upper method = method := by
    decide +kernel
  have hmethod : op.method ∈ ["GET", "POST", "PATCH", "DELETE"] := by
    cases op <;> simp [method]
  exact hupper op.method hmethod

/-- Every operation is about a repository. -/
theorem exists_path_eq (op : Operation) : ∃ rest, op.path = "/repos/" ++ rest := by
  cases op <;>
  · simp only [path, pull, issues, repository, String.append_assoc]
    exact ⟨_, rfl⟩

/-- No operation goes where the quota is reported. -/
theorem path_ne_quota (op : Operation) : op.path ≠ QuotaSnapshot.path := by
  obtain ⟨rest, h⟩ := op.exists_path_eq
  intro hq
  have hthird := congrArg (fun s ↦ s.toList[2]?) (h.symm.trans hq)
  simp [QuotaSnapshot.path] at hthird

/-- An answer that does not come in pages can always be read. -/
theorem exists_read_eq_ok {op : Operation} (hop : op.isPaginated = false) (room : Room)
    (payload : Value) : ∃ items, op.shape.read room payload = .ok items := by
  cases op <;> first | exact ⟨_, rfl⟩ | cases hop

/-- So it fails only if its response does. -/
theorem readPage_error {op : Operation} (hop : op.isPaginated = false) {room : Room}
    {response : Response} {items : List Item} {error : Option Failure}
    (h : op.call.readPage room response = .ok (items, error)) :
    response.failure? room.message = .ok error := by
  cases Call.page_of_readPage h with
  | failed hf => exact hf
  | read hf _ => exact hf
  | malformed _ hfault =>
    obtain ⟨read, hread⟩ := exists_read_eq_ok hop room response.payload
    cases hread.symm.trans hfault

/-- Probes are on no route of an operation. -/
theorem isOn_quota (op : Operation) : QuotaSnapshot.request.isOn op.method op.path = false := by
  rw [Bool.eq_false_iff, ne_eq, Request.isOn_eq_true_iff]
  exact fun h ↦ op.path_ne_quota h.2.symm

end Operation

/-! ## Probes -/

namespace QuotaSnapshot

/-- A response that is no snapshot is a failure of the probe. -/
theorem ofResponse_isPipeline {category : String} {response : Response} {f : Failure}
    (h : ofResponse category response = .error f) : f.isPipeline = true := by
  unfold ofResponse at h
  repeat' split at h
  all_goals cases h
  all_goals rfl

/-- A probe is one request. -/
theorem fetch_apply (t : Transport σ) (category : String) (w : World σ) :
    fetch t category w =
      ((t request w.machine).1.bind (ofResponse category), w.after t [.requested request]) := by
  have hrequest : t.request { method := "GET", path } w =
      ((t request w.machine).1, w.after t [.requested request]) := rfl
  rw [fetch, hrequest]
  cases (t request w.machine).1 <;> rfl

/-- A probe talks to the outside through its request alone. -/
theorem fetch_over (t : Transport σ) (category : String) :
    (fetch t category).Over t (· = request) := fun w ↦
  ⟨[.requested request], by rw [fetch_apply], by simp⟩

/-- So it leaves the route of an operation alone. -/
theorem fetch_over_route (t : Transport σ) (category : String) (op : Operation) :
    (fetch t category).Over t (·.isOn op.method op.path = false) := by
  intro w
  obtain ⟨events, hw, hrequests⟩ := fetch_over t category w
  exact ⟨events, hw, fun r hr ↦ hrequests r hr ▸ op.isOn_quota⟩

/-- A probe that is answered fails only as a probe. -/
theorem fetch_isPipeline {t : Transport σ} {category : String} {w : World σ} {f : Failure}
    (ht : ∃ response, (t request w.machine).1 = .ok response)
    (h : (fetch t category w).1 = .error f) : f.isPipeline = true := by
  obtain ⟨response, hresponse⟩ := ht
  rw [fetch_apply, hresponse] at h
  exact ofResponse_isPipeline h

end QuotaSnapshot

namespace QuotaWatch

/-- What a watch says about the outcome of a probe. -/
def notices (threshold : Int) : Except Failure QuotaSnapshot → List Log.Notice
  | .ok snapshot => if snapshot.remaining < threshold then [.quotaLow snapshot] else []
  | .error f => if f.isPipeline then [.probeFailed f.message] else []

/-- What a watch makes of the outcome of a probe. -/
def verdict : Except Failure QuotaSnapshot → Except Failure (Option QuotaSnapshot)
  | .ok snapshot => .ok (some snapshot)
  | .error f => if f.isPipeline then .ok none else .error f

/-- A check is a probe and its notices. -/
theorem check_eq {q : QuotaWatch σ} {w w' : World σ} {outcome : Except Failure QuotaSnapshot}
    (h : q.fetch w = (outcome, w')) (t : Transport σ) :
    q.check w = (verdict outcome, w'.after t ((notices q.threshold outcome).map .logged)) := by
  have hrecord (notice : Log.Notice) := World.record_eq_after (t := t) (w := w')
    (e := .logged notice) rfl
  unfold check
  rw [h]
  cases outcome with
  | ok snapshot => by_cases hlow : snapshot.remaining < q.threshold <;>
    simp [verdict, notices, hlow, hrecord]
  | error f => by_cases hf : f.isPipeline <;> simp [verdict, notices, hf, hrecord]

/-- It fails only if the probe fails in a way that is not the pipeline's. -/
theorem of_verdict_eq_error {outcome : Except Failure QuotaSnapshot} {f : Failure}
    (h : verdict outcome = .error f) : outcome = .error f ∧ f.isPipeline = false := by
  cases outcome with
  | ok snapshot => cases h
  | error e =>
    by_cases he : e.isPipeline = true
    · simp [verdict, he] at h
    · obtain rfl : e = f := by simpa [verdict, he] using h
      exact ⟨rfl, Bool.eq_false_iff.mpr he⟩

/-- A watch whose probe talks to the outside over a transport does so as well. -/
theorem check_over {q : QuotaWatch σ} {t : Transport σ} {p : Request → Prop}
    (h : q.fetch.Over t p) : q.check.Over t p := by
  intro w
  obtain ⟨events, hw, hp⟩ := h w
  refine ⟨events ++ (notices q.threshold (q.fetch w).1).map .logged, ?_, ?_⟩
  · rw [check_eq rfl t, hw, World.after_after]
  · intro r hr
    rcases List.mem_append.mp hr with hr | hr
    · exact hp r hr
    · simp at hr

end QuotaWatch

/-! ## Whole calls -/

namespace Client

/-- What a call makes of what its chain delivers. -/
def answer (room : Room) (op : Operation) : Ending (Delivery Item) → Ending Answer
  | .returned d =>
    match d.error with
    | none => (Ending.returned d.items).mapExcept (op.shape.conclude room)
    | some e => .raised e
  | .raised f => .raised f
  | .unfinished => .unfinished

section

variable {fuel : Nat} {c : Client σ} {op : Operation} {w : World σ} {st : State σ Item}

/-- An error that is left over at the end of the chain is raised. -/
theorem run_of_failed {r : Result σ Item} {e : Failure}
    (h : c.chain.around fuel (c.unit op.call) noPage { world := w } = (.returned r, st))
    (he : r.error = some e) : c.run fuel op w = (.raised e, st.world) := by
  simp only [run, execute, action, Action.bind_of_returned h, he]
  rfl

/-- Without one the items of the result are staged, and the answer is made of the buffer. -/
theorem run_of_succeeded {r : Result σ Item} {items : List Item}
    (h : c.chain.around fuel (c.unit op.call) noPage { world := w } = (.returned r, st))
    (he : r.error = none) (ha : r.apply = Action.stage items) :
    c.run fuel op w =
      ((Ending.returned (st.staged ++ items)).mapExcept (op.shape.conclude c.room), st.world) := by
  simp only [run, execute, action, Action.bind_of_returned h, he, ha]
  rfl

theorem run_of_raised {f : Failure}
    (h : c.chain.around fuel (c.unit op.call) noPage { world := w } = (.raised f, st)) :
    c.run fuel op w = (.raised f, st.world) := by
  simp only [run, execute, action, Action.bind_of_raised h]
  rfl

theorem run_of_unfinished
    (h : c.chain.around fuel (c.unit op.call) noPage { world := w } = (.unfinished, st)) :
    c.run fuel op w = (.unfinished, st.world) := by
  simp only [run, execute, action, Action.bind_of_unfinished h]
  rfl

end

/-- Chains that end alike surface alike. -/
theorem run_eq_of_around_eq {fuel : Nat} {c c' : Client σ} {op : Operation} {w w' : World σ}
    {ending : Ending (Result σ Item)} {st st' : State σ Item}
    (h : c.chain.around fuel (c.unit op.call) noPage { world := w } = (ending, st))
    (h' : c'.chain.around fuel (c'.unit op.call) noPage { world := w' } = (ending, st'))
    (hroom : c'.room = c.room) (hstaged : st'.staged = st.staged)
    (hstages : ∀ r, ending = .returned r → r.Stages) :
    c'.run fuel op w' = ((c.run fuel op w).1, st'.world) := by
  cases ending with
  | returned r =>
    obtain ⟨items, hitems⟩ := hstages r rfl
    cases he : r.error with
    | none => rw [run_of_succeeded h he hitems, run_of_succeeded h' he hitems, hstaged, hroom]
    | some e => rw [run_of_failed h he, run_of_failed h' he]
  | raised f => rw [run_of_raised h, run_of_raised h']
  | unfinished => rw [run_of_unfinished h, run_of_unfinished h']

/-- A call that does not end is a run of its chain that does not. -/
theorem eq_unfinished_of_run {fuel : Nat} {c : Client σ} {op : Operation} {w w' : World σ}
    {ending : Ending (Result σ Item)} {st : State σ Item}
    (h : c.chain.around fuel (c.unit op.call) noPage { world := w } = (ending, st))
    (hstages : ∀ r, ending = .returned r → r.Stages)
    (hrun : c.run fuel op w = (.unfinished, w')) : ending = .unfinished := by
  cases ending with
  | returned r =>
    obtain ⟨items, hitems⟩ := hstages r rfl
    cases he : r.error with
    | none =>
      rw [run_of_succeeded h he hitems, Ending.mapExcept] at hrun
      cases hanswer : op.shape.conclude c.room (st.staged ++ items) <;> simp [hanswer] at hrun
    | some e =>
      rw [run_of_failed h he] at hrun
      cases hrun
  | raised f =>
    rw [run_of_raised h] at hrun
    cases hrun
  | unfinished => rfl

/-- A call is a run of its chain from an empty buffer, and answers with what that delivers. -/
theorem exists_outcome_run {Φ : Runs σ Item} {fuel : Nat} {c : Client σ} {op : Operation}
    (hΦ : (c.chain.around fuel (c.unit op.call)).Satisfies Φ) (w : World σ) :
    ∃ outcome, Φ w outcome (c.run fuel op w).2 ∧
      (c.run fuel op w).1 = answer c.room op outcome := by
  rcases h : c.chain.around fuel (c.unit op.call) noPage { world := w } with ⟨ending, st⟩
  obtain ⟨outcome, hrun, hd⟩ := hΦ.run h
  refine ⟨outcome, ?_⟩
  cases hd with
  | @returned d left hstaged =>
    cases he : d.error with
    | none =>
      have hbuffer : st.staged ++ (d.withItems left).items = d.items := hstaged he
      rw [run_of_succeeded h he rfl, hbuffer]
      exact ⟨hrun, by simp only [answer, he]⟩
    | some e =>
      rw [run_of_failed h he]
      exact ⟨hrun, by simp only [answer, he]⟩
  | raised =>
    rw [run_of_raised h]
    exact ⟨hrun, rfl⟩
  | unfinished =>
    rw [run_of_unfinished h]
    exact ⟨hrun, rfl⟩

end Client

end PullRelay
