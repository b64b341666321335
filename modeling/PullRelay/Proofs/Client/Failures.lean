import PullRelay.Proofs.Client.LastSuccess
import PullRelay.Proofs.Pipeline.Tries
import PullRelay.Proofs.Transport.Ledger

/-!
# Failures of a script

An entry of a script that stands for a failure of the transport is told apart from a response by
its text alone.  If it has one, every request that it answers fails, for whoever makes it, and a
call does not return before another request has succeeded.  If the text is empty, the entry is a
response of status 0, and is taken for a success (`Routes.added_failure_fails`).
-/

namespace PullRelay

/-! ## Entries that answer -/

namespace Ledger

/-- What waits was added in the place that it has. -/
def HasPlaces (l : Ledger) : Prop := ∀ x ∈ l.waiting, l.registered[x.1]? = some x.2

variable {l l' : Ledger} {answers : List (Except Failure Response)}

theorem Takes.hasPlaces {x : Routes.Step} (h : l.Takes x answers l') (hl : l.HasPlaces) :
    l'.HasPlaces := by
  cases h with
  | @registers _ e =>
    intro y hy
    rcases List.mem_append.mp hy with hy | hy
    · have hold := hl y hy
      exact (List.getElem?_append_left (List.getElem?_eq_some_iff.mp hold).1).trans hold
    · obtain rfl := List.mem_singleton.mp hy
      exact List.getElem?_concat_length
  | @serves _ _ before x after _ hwaiting =>
    have hothers : ∀ y ∈ before ++ after, y ∈ l.waiting := fun y hy ↦ by
      rw [hwaiting, List.mem_append, List.mem_cons]
      exact (List.mem_append.mp hy).imp_right .inr
    intro y hy
    unfold serve at hy
    dsimp only at hy
    split at hy
    · exact hl y hy
    · exact hl y (hothers y hy)
  | finds_none | unreadable => exact hl

theorem Run.hasPlaces {steps : List Routes.Step} (h : Run l steps answers l') (hl : l.HasPlaces) :
    l'.HasPlaces := by
  induction h with
  | nil => exact hl
  | cons hx _ ih => exact ih (hx.hasPlaces hl)

/-- A request is answered by the entry that was added in the place of the one that serves. -/
theorem Takes.answer_eq {r : Request} {answer : Except Failure Response} {place : Nat}
    {e : RouteEntry} (h : l.Takes (.request r) [answer] l') (hl : l.HasPlaces)
    (hserved : l'.served = l.served ++ [(place, e)]) :
    l.registered[place]? = some e ∧ answer = .ok e.response := by
  generalize hanswers : [answer] = answers at h
  cases h with
  | registers he => cases hanswers
  | serves _ hwaiting =>
    cases List.append_cancel_left hserved
    exact ⟨hl (place, e) (by simp [hwaiting]), List.singleton_inj.mp hanswers⟩
  | finds_none | unreadable => simp at hserved

end Ledger

namespace Routes

/-- The entry that was added in this place answers the request after these steps. -/
def AnsweredBy (steps : List Step) (r : Request) (place : Nat) : Prop :=
  ∃ l l' e, Ledger.Run {} steps (play steps {}).1 l ∧
    l.Takes (.request r) [(transport r (play steps {}).2).1] l' ∧
    l'.served = l.served ++ [(place, e)]

/-- The failure that an added one amounts to.  Without a text there is none. -/
def failure? (method path message : String) : Option Failure :=
  if message = "" then none
  else some (.transport (Text.upper method ++ " " ++ path ++ " failed: " ++ message))

/-- The place of an entry among those that are added. -/
def placeAfter (steps : List Step) : Nat := (steps.filterMap Step.entry?).length

/-- What is added after some steps has its place after what they add. -/
theorem getElem?_placeAfter {x : Step} {e : RouteEntry} (h : x.entry? = some e)
    (before between : List Step) :
    ((before ++ x :: between).filterMap Step.entry?)[placeAfter before]? = some e := by
  rw [List.filterMap_append, List.filterMap_cons_some h, placeAfter,
    List.getElem?_append_right (Nat.le_refl _), Nat.sub_self]
  rfl

variable {before between : List Step} {method path message : String} {persist : Bool} {r : Request}

/-- The response that an added failure gives. -/
theorem answer_of_failure
    (h : AnsweredBy (before ++ .fail method path message persist :: between) r
      (placeAfter before)) :
    (transport r (play (before ++ .fail method path message persist :: between) {}).2).1 =
      .ok { status := 0, error := failure? method path message } := by
  obtain ⟨l, l', e, hrun, htakes, hserved⟩ := h
  obtain ⟨he, hanswer⟩ := htakes.answer_eq (hrun.hasPlaces nofun) hserved
  rw [hrun.registered_eq, List.nil_append, getElem?_placeAfter rfl] at he
  cases he
  rw [hanswer, RouteEntry.response, failure?]
  simp only [String.isEmpty_iff]
  split <;> rfl

end Routes

/-- A unit whose request is answered by an added failure stages nothing and names no further page;
it fails if the failure has a text. -/
theorem Client.unit_of_answer {σ : Type} {c : Client σ} {op : Operation} {page : Int}
    {st : State σ Item} {error : Option Failure}
    (h : (c.transport (op.call.request c.perPage page) st.world.machine).1 =
      .ok { status := 0, error }) :
    (c.unit op.call page st).1 =
      .returned { apply := Action.stage [], status := 0, error } := by
  have hread : op.shape.read c.room .null = .ok [] := by cases op <;> rfl
  have hpage : op.call.readPage c.room { status := 0, error } = .ok ([], error) := by
    cases error with
    | some e => rfl
    | none =>
      rw [Call.readPage_of_good (Response.failure?_eq_none_iff.mpr ⟨rfl, by decide⟩),
        Operation.call_read, hread]
  have hnext : op.call.nextPage { status := 0, error } = .ok none := by
    unfold Call.nextPage
    split <;> rfl
  have hresult : op.call.result (σ := σ) c.room { status := 0, error } =
      .ok { apply := Action.stage [], status := 0, error } := by
    rw [Call.result, hpage, hnext]
    rfl
  rw [unit_apply, h, Call.ending, hresult]

/-! ## Calls that return -/

/-- What ends without an error ends with a request that has succeeded. -/
def EndsInSuccess {ι : Type} : Account ι := fun xs outcome ↦
  ∀ d, outcome = .returned d → d.error = none → ∃ earlier x, xs = earlier ++ [x] ∧ x.Succeeds

namespace EndsInSuccess

variable {σ ι : Type} {t : Transport σ} {method path : String} {xs ys : List Exchange}
  {outcome : Ending (Delivery ι)}

/-- It does not matter what came before. -/
theorem append (h : EndsInSuccess ys outcome) : EndsInSuccess (xs ++ ys) outcome := by
  intro d hd he
  obtain ⟨earlier, x, rfl, hx⟩ := h d hd he
  exact ⟨xs ++ earlier, x, (List.append_assoc ..).symm, hx⟩

theorem of_error {d : Delivery ι} {e : Failure} (he : d.error = some e) :
    EndsInSuccess xs (.returned d) := by
  rintro _ ⟨⟩ hnone
  cases he.symm.trans hnone

theorem raised (f : Failure) : EndsInSuccess xs (.raised f : Ending (Delivery ι)) := nofun

/-- Nor what is delivered. -/
theorem after (h : EndsInSuccess xs outcome) (items : List ι) :
    EndsInSuccess xs (outcome.map fun d ↦ d.after items) := by
  cases outcome with
  | returned d =>
    rintro _ ⟨⟩ he
    exact h d rfl he
  | raised f | unfinished => nofun

theorem runs_append {w w₁ w' : World σ} {d : Delivery ι}
    (h : Account.runs EndsInSuccess t method path w (.returned d) w₁)
    (rest : Account.runs EndsInSuccess t method path w₁ outcome w') :
    Account.runs EndsInSuccess t method path w outcome w' := by
  obtain ⟨events, rfl, -⟩ := h
  obtain ⟨events', rfl, hrest⟩ := rest
  refine ⟨events ++ events', by rw [World.after_after], ?_⟩
  rw [Transport.exchangesOn_append]
  exact hrest.append

theorem closed : (Account.runs (ι := ι) EndsInSuccess t method path).Closed where
  before he h := Account.runs_before he h
  after he h := Account.runs_after h (World.record_eq_after he)
    (fun r hr ↦ absurd hr (Event.requested_notMem_singleton he r)) fun _ ↦ id
  limited := by
    rintro w d w' next ⟨events, hw, -⟩ - - limit
    exact ⟨events, hw, of_error rfl⟩
  spent := by
    rintro w d w' next ⟨events, hw, -⟩ - -
    exact ⟨events, hw, nofun⟩
  page := by
    rintro w d w₁ next outcome w' h - - rest
    obtain ⟨events, hw, hend⟩ := runs_append h rest
    exact ⟨events, hw, hend.after d.items⟩
  exhausted := by
    rintro w d w' e ⟨events, hw, -⟩ - errors
    exact ⟨events, hw, of_error rfl⟩
  again h _ rest := runs_append h rest

/-- A unit of an operation has no error just if its request has succeeded and could be read. -/
theorem of_exchange (c : Client σ) (op : Operation) (page : Int) (m : σ) :
    EndsInSuccess [c.exchange op.call page m]
      (op.call.outcome c.room (c.exchange op.call page m).answer) := by
  intro d hd he
  obtain ⟨response, hanswer, hread, -⟩ := Call.outcome_eq_returned hd
  rw [he] at hread
  generalize d.items = items at hread
  cases Call.page_of_readPage hread with
  | read hgood _ =>
    exact ⟨[], _, rfl, response, hanswer, Response.failure?_eq_none_iff.mp hgood⟩

end EndsInSuccess

/-- A call that returns ends with a request that has succeeded. -/
theorem Client.succeeds_last_of_returned {σ : Type} {c : Client σ}
    (hc : ∀ q, Layer.quota q ∈ c.chain →
      ∃ category, q.fetch = QuotaSnapshot.fetch c.transport category)
    (op : Operation) (fuel : Nat) (w : World σ) :
    ∃ events, (c.run fuel op w).2 = w.after c.transport events ∧
      ∀ answer, (c.run fuel op w).1 = .returned answer → ∃ earlier x,
        c.transport.exchangesOn op.method op.path w.machine events = earlier ++ [x] ∧
          x.Succeeds := by
  have hq (q) (hmem : Layer.quota q ∈ c.chain) :
      q.Keeps (Account.runs (ι := Item) EndsInSuccess c.transport op.method op.path) := by
    obtain ⟨category, hfetch⟩ := hc q hmem
    have hover := QuotaSnapshot.fetch_over_route c.transport category op
    exact Account.keeps (hfetch ▸ hover) fun _ f _ _ _ _ _ ↦ EndsInSuccess.raised f
  obtain ⟨outcome, ⟨events, hw, h⟩, hanswer⟩ := Client.exists_outcome_run
    (Chain.satisfies_around EndsInSuccess.closed hq
      (Account.unit_satisfies (EndsInSuccess.of_exchange c op)) fuel) w
  refine ⟨events, hw, fun answer hreturned ↦ ?_⟩
  rw [hanswer] at hreturned
  cases outcome with
  | returned d =>
    cases he : d.error with
    | none => exact h d rfl he
    | some e =>
      rw [Client.answer, he] at hreturned
      cases hreturned
  | raised f | unfinished => cases hreturned

/-! ## Runs over a script -/

namespace Routes

theorem play_append (xs ys : List Step) (m : Routes) :
    (play (xs ++ ys) m).2 = (play ys (play xs m).2).2 := by
  induction xs generalizing m with
  | nil => rfl
  | cons x xs ih => exact ih (m.step x).2

/-- The requests of a run are further steps of the script. -/
theorem machineAfter_eq_play (events : List Event) (m : Routes) :
    Transport.machineAfter transport m events =
      (play ((requestsOf events).map .request) m).2 := by
  induction events generalizing m with
  | nil => rfl
  | cons e events ih =>
    cases e with
    | requested r => exact ih (transport r m).2
    | _ => exact ih m

/-- A client of the script. -/
def client (chain : Chain Routes) (perPage : Value) (room : Room) : Client Routes where
  transport
  chain
  perPage
  room

section Added

variable {before between : List Step} {method path message : String} {persist : Bool}
  {chain : Chain Routes} {perPage : Value} {room : Room} {op : Operation}

/-- A unit of work whose request an added failure answers stages nothing, and is a failed attempt
if the failure has a text. -/
theorem unit_of_failure {page : Int} {st : State Routes Item}
    (hmachine : st.world.machine =
      (play (before ++ .fail method path message persist :: between) {}).2)
    (hr : AnsweredBy (before ++ .fail method path message persist :: between)
      (op.call.request perPage page) (placeAfter before)) :
    ∃ result st', (client chain perPage room).unit op.call page st = (.returned result, st') ∧
      result.apply = Action.stage [] ∧ result.status = 0 ∧ result.next = none ∧
      result.error = failure? method path message ∧
      ∀ retry : Retry, retry.accepts = Failure.isRetryable →
        (retry.GoesOnAfter ⟨st, result, st'⟩ ↔ message ≠ "") := by
  have hanswer : (transport (op.call.request perPage page) st.world.machine).1 =
      .ok { status := 0, error := failure? method path message } := by
    rw [hmachine, answer_of_failure hr]
  refine ⟨_, _, Prod.ext (Client.unit_of_answer hanswer) rfl, rfl, rfl, rfl, rfl,
    fun retry hretry ↦ ?_⟩
  unfold Retry.GoesOnAfter failure?
  rw [hretry]
  by_cases hmessage : message = ""
  · simp [hmessage]
  · rw [if_neg hmessage]
    exact iff_of_true ⟨_, rfl, rfl⟩ hmessage

/-- What ends with a request that has succeeded does not end with one that such a failure
answers. -/
theorem exists_requested_of_failure {m : Routes} {xs ys : List Event} {r : Request}
    (hm : m = (play (before ++ .fail method path message persist :: between) {}).2)
    (hsucceeds : ∃ earlier x, Transport.exchangesOn transport op.method op.path m
      (xs ++ .requested r :: ys) = earlier ++ [x] ∧ x.Succeeds)
    (hon : r.isOn op.method op.path = true) (hmessage : message ≠ "")
    (hr : AnsweredBy (before ++ .fail method path message persist :: between ++
      (requestsOf xs).map .request) r (placeAfter before)) :
    ∃ r', Event.requested r' ∈ ys ∧ r'.isOn op.method op.path = true := by
  -- Otherwise the failure is the last exchange on the route, and that one has succeeded.
  by_contra hnone
  obtain ⟨earlier, x, hsplit, response, hresponse, herror, -⟩ := hsucceeds
  have hys : ∀ r', Event.requested r' ∈ ys → r'.isOn op.method op.path = false := fun r' hr' ↦
    Bool.eq_false_iff.mpr fun hon' ↦ hnone ⟨r', hr', hon'⟩
  have hlast : Transport.exchangesOn transport op.method op.path
      (Transport.machineAfter transport m xs) (.requested r :: ys) =
        [⟨r, (transport r (Transport.machineAfter transport m xs)).1⟩] := by
    rw [← List.singleton_append, Transport.exchangesOn_append,
      Transport.exchangesOn_eq_nil transport hys, List.append_nil]
    simp [Transport.exchangesOn, Transport.exchanges, Event.request?, hon]
  rw [Transport.exchangesOn_append, hlast] at hsplit
  obtain ⟨-, hx⟩ := List.append_inj' hsplit rfl
  cases hx
  rw [machineAfter_eq_play, hm, ← play_append] at hresponse
  rw [List.append_assoc, List.cons_append] at hr
  rw [List.append_assoc, List.cons_append] at hresponse
  cases (answer_of_failure hr).symm.trans hresponse
  rw [failure?, if_neg hmessage] at herror
  cases herror

end Added

/-- An added failure gives a response of status 0, with a failure of the transport unless its text
is empty.  A unit of work that gets this response stages nothing, and a retry counts it as a
failed attempt, again unless the text is empty.  A call does not return after it without a further
request, unless the text is empty. -/
theorem added_failure_fails (before between : List Step) (method path message : String)
    (persist : Bool) :
    let steps := before ++ .fail method path message persist :: between
    (∀ r, AnsweredBy steps r (placeAfter before) → (transport r (play steps {}).2).1 =
      .ok { status := 0, error := failure? method path message }) ∧
    ∀ chain perPage room op,
      (∀ page (st : State Routes Item), st.world.machine = (play steps {}).2 →
        AnsweredBy steps (op.call.request perPage page) (placeAfter before) →
        ∃ result st', (client chain perPage room).unit op.call page st = (.returned result, st') ∧
          result.apply = Action.stage [] ∧ result.status = 0 ∧ result.next = none ∧
          result.error = failure? method path message ∧
          ∀ retry : Retry, retry.accepts = Failure.isRetryable →
            (retry.GoesOnAfter ⟨st, result, st'⟩ ↔ message ≠ "")) ∧
      ((∀ q, Layer.quota q ∈ chain → ∃ category, q.fetch = QuotaSnapshot.fetch transport category) →
        ∀ fuel w, w.machine = (play steps {}).2 → ∃ events,
          ((client chain perPage room).run fuel op w).2 = w.after transport events ∧
          ∀ xs r ys, events = xs ++ .requested r :: ys → r.isOn op.method op.path = true →
            AnsweredBy (steps ++ (requestsOf xs).map .request) r (placeAfter before) →
            message ≠ "" → ∀ answer,
              ((client chain perPage room).run fuel op w).1 = .returned answer →
              ∃ r', Event.requested r' ∈ ys ∧ r'.isOn op.method op.path = true) := by
  refine ⟨fun r ↦ answer_of_failure, fun chain perPage room op ↦
    ⟨fun page st ↦ unit_of_failure, fun hquotas fuel w hw ↦ ?_⟩⟩
  obtain ⟨events, hafter, hreturned⟩ :=
    Client.succeeds_last_of_returned (c := client chain perPage room) hquotas op fuel w
  refine ⟨events, hafter, fun xs r ys hevents hon hr hmessage answer hanswer ↦ ?_⟩
  have hsucceeds := hreturned answer hanswer
  rw [hevents] at hsucceeds
  exact exists_requested_of_failure hw hsucceeds hon hmessage hr

/-- The entry that waits first answers what it serves. -/
theorem answeredBy_head {steps : List Step} {l : Ledger} {r : Request} {page : Option Int}
    {place : Nat} {e : RouteEntry} {rest : List (Nat × RouteEntry)}
    (hrun : Ledger.Run {} steps (play steps {}).1 l) (hwaiting : l.waiting = (place, e) :: rest)
    (hpage : pageOf r.params = .ok page)
    (hserves : e.serves (Text.upper r.method) r.path page = true)
    (hanswer : (transport r (play steps {}).2).1 = .ok e.response) :
    AnsweredBy steps r place := by
  have hsplit : l.waiting = [] ++ (place, e) :: rest := hwaiting
  refine ⟨l, l.serve (place, e) ([] ++ rest), e, hrun, ?_, rfl⟩
  rw [hanswer]
  exact .serves hpage hsplit hserves nofun

/-- A pull request that cannot be read at first. -/
def flaky : List Step :=
  [.fail "get" "/repos/o/r/pulls/1" "dns" false,
    .add { method := "GET", path := "/repos/o/r/pulls/1", payload := .object [("id", .int 7)] }]

/-- Reading the pull request. -/
def reading : Operation := .pullRequest "o" "r" (.int 1)

/-- A client that reads it in two attempts. -/
def patient : Client Routes := client [.retry (.ofAttempts 2 .nan Failure.isRetryable)] .null {}

theorem answeredBy_flaky : AnsweredBy flaky (reading.call.request .null 0) 0 :=
  answeredBy_head (.cons (.registers rfl) (.cons (.registers rfl) .nil)) rfl rfl
    (by decide +kernel) rfl

/-- The second attempt returns the pull request. -/
theorem run_patient : ∃ w, patient.run 0 reading { machine := (play flaky {}).2 } =
      (.returned (.record [("id", .int 7)]), w) ∧
    w.trace = [.requested (reading.call.request .null 0), .slept .nan,
      .requested (reading.call.request .null 0)] := by
  obtain ⟨result, st, haround, he, happly, hstaged, htrace⟩ : ∃ result st,
      patient.chain.around 0 (patient.unit reading.call) noPage
        { world := { machine := (play flaky {}).2 } } = (.returned result, st) ∧
      result.error = none ∧ result.apply = Action.stage [.row [("id", .int 7)]] ∧
      st.staged = [] ∧ st.world.trace = [.requested (reading.call.request .null 0), .slept .nan,
        .requested (reading.call.request .null 0)] :=
    ⟨_, _, (Retry.around_apply ..).trans
      (Retry.Attempts.again rfl rfl rfl (.settled rfl (by rintro _ ⟨⟩))).attempt_eq,
      rfl, rfl, rfl, rfl⟩
  refine ⟨st.world, ?_, htrace⟩
  rw [Client.run_of_succeeded haround he happly, hstaged]
  rfl

/-- The pull request is read once more, and returned. -/
theorem flaky_failure_fails :
    let r := reading.call.request .null 0
    let w : World Routes := { machine := (play flaky {}).2 }
    let error : Option Failure := some (.transport "GET /repos/o/r/pulls/1 failed: dns")
    (transport r (play flaky {}).2).1 = .ok { status := 0, error } ∧
    (∃ result st', patient.unit reading.call 0 { world := w } = (.returned result, st') ∧
      result.apply = Action.stage [] ∧ result.error = error) ∧
    ∃ answer ys r', (patient.run 0 reading w).1 = .returned answer ∧
      (patient.run 0 reading w).2.trace = .requested r :: ys ∧ Event.requested r' ∈ ys ∧
      r'.isOn "GET" "/repos/o/r/pulls/1" = true := by
  intro r w error
  have hfailure : failure? "get" "/repos/o/r/pulls/1" "dns" = error := by rfl
  obtain ⟨hresponse, hclient⟩ := added_failure_fails [] flaky.tail "get" "/repos/o/r/pulls/1" "dns"
    false
  obtain ⟨hunit, hrun⟩ := hclient patient.chain .null {} reading
  refine ⟨hfailure ▸ hresponse r answeredBy_flaky, ?_, ?_⟩
  · obtain ⟨result, st', h, happly, -, -, herror, -⟩ :=
      hunit 0 { world := w } rfl answeredBy_flaky
    exact ⟨result, st', h, happly, herror.trans hfailure⟩
  · obtain ⟨events, hafter, hrequested⟩ := hrun (by simp [patient, client]) 0 w rfl
    obtain ⟨w', hpatient, htrace⟩ := run_patient
    have hevents : events = [] ++ .requested r :: [.slept .nan, .requested r] := by
      have hw' : w' = w.after transport events := (congrArg Prod.snd hpatient).symm.trans hafter
      rw [hw'] at htrace
      exact htrace
    obtain ⟨r', hr', hon⟩ := hrequested [] r _ hevents (by decide) answeredBy_flaky (by decide) _
      (congrArg Prod.fst hpatient)
    exact ⟨_, _, r', congrArg Prod.fst hpatient, by rw [hpatient]; exact htrace, hr', hon⟩

/-- A failure without a text is a response like any other, and is returned as an answer. -/
theorem silent_failure_succeeds : ¬∀ (before between : List Step) (method path message : String)
    (persist : Bool) (r : Request),
    AnsweredBy (before ++ .fail method path message persist :: between) r (placeAfter before) →
    ∃ text, (transport r (play (before ++ .fail method path message persist :: between) {}).2).1 =
      .ok { status := 0, error := some (.transport text) } := by
  intro h
  have hanswered : AnsweredBy [.fail "GET" "/x" "" false] { method := "GET", path := "/x" } 0 :=
    answeredBy_head (.cons (.registers rfl) .nil) rfl rfl (by decide +kernel) rfl
  obtain ⟨text, htext⟩ := h [] [] _ _ _ _ _ hanswered
  cases htext

end Routes

end PullRelay
