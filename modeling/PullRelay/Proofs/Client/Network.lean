import PullRelay.Proofs.Client.QuotaIndependence
import PullRelay.Proofs.Transport.Scripts

/-!
# Calls over the network

The same answers can wait on scripted routes or come back from a session.  A client
that asks its questions over the one tells the same story as a client that asks them
over the other: it ends alike, logs and pauses alike, and sends what was asked
(`Client.run_over_network`).

This holds as long as no body goes too deep for the reader of documents.  A body that
does is not taken as text, as bodies are that are no documents; what the reader raises
then leaves the call over the network (`Client.run_raised_of_tooDeep`).
-/

namespace PullRelay

/-! ## Requests of a call -/

/-- A page with a number that can be read is found in the parameters of its request. -/
theorem Routes.pageOf_pageParams {page : Int} (h : Numeral.IsReadable page) (perPage : Value) :
    pageOf (Call.pageParams perPage page) = .ok (if page = 0 then none else some page) := by
  have hread := Numeral.readInt_toString h
  by_cases hpage : page = 0
  · subst hpage
    rfl
  · have hfield : Value.field? "page" [("per_page", .text perPage.asText),
        ("page", Value.text (toString page))] = some (.text (toString page)) := rfl
    have hnonempty : toString page ≠ "" := by
      intro hempty
      rw [hempty] at hread
      cases hread
    rw [Call.pageParams, if_neg hpage, if_neg hpage]
    generalize toString page = text at hread hfield hnonempty ⊢
    simp only [pageOf, parametersOf, bind, Except.bind, hfield]
    split
    next hnone => cases hnone
    next hnull => cases hnull
    next hempty =>
      cases hempty
      exact absurd rfl hnonempty
    next v hv =>
      cases hv
      simp only [Value.toInt, hread]
      rfl

namespace Operation

/-- An operation asks on its own route alone, and its requests can be read there. -/
theorem isOnRoute_of_asks {op : Operation} {perPage : Value} {r : Request}
    (h : op.call.Asks perPage r) : Routes.IsOnRoute op.method op.path r := by
  obtain ⟨page, hpage, rfl⟩ := h
  refine ⟨rfl, rfl, ?_⟩
  unfold Call.request
  dsimp only
  split
  · exact ⟨_, Routes.pageOf_pageParams hpage perPage⟩
  · exact ⟨none, rfl⟩

end Operation

/-! ## Whole calls -/

/-- A probe gets the answer that waits on its route. -/
theorem Routes.probe_of_queue {m : Routes} {quota : Scripted}
    (h : m.queue "GET" QuotaSnapshot.path = [quota.entry "GET" QuotaSnapshot.path]) :
    (transport QuotaSnapshot.request m).1 = .ok (quota.response QuotaSnapshot.request) := by
  have hupper : Text.upper "GET" = "GET" := by decide +kernel
  have hroute : IsOnRoute "GET" QuotaSnapshot.path QuotaSnapshot.request := ⟨rfl, rfl, none, rfl⟩
  have hawaits : Awaits "GET" QuotaSnapshot.path [quota] m := h
  exact (plays hupper QuotaSnapshot.path hroute hawaits).1

namespace Client

section

variable {s : Settings} {op : Operation} {events : List Event}

/-- A call over scripted routes has all its requests on record. -/
theorem calls_machineAfter_call
    (hasks : ∀ e ∈ events, Event.IsQuiet (op.call.Asks (.int s.perPage)) e) (response : Response)
    (ending : Ending Answer) (m : Routes) :
    (Routes.transport.machineAfter m (events ++ s.closing response ending)).calls =
      m.calls ++ requestsOf (events ++ s.closing response ending) := by
  refine Routes.calls_machineAfter (fun r hr ↦ ?_) m
  rw [mem_requestsOf_iff, List.mem_append] at hr
  rcases hr with hr | hr
  · rw [(Operation.isOnRoute_of_asks (hasks _ hr)).1, op.upper_method]
  · rw [Settings.eq_of_mem_closing hr]
    decide +kernel

/-- All but the probe are on the route of the operation. -/
theorem callsTo_of_calls (hasks : ∀ e ∈ events, Event.IsQuiet (op.call.Asks (.int s.perPage)) e)
    {response : Response} {ending : Ending Answer} {m : Routes}
    (hcalls : m.calls = requestsOf (events ++ s.closing response ending)) :
    m.callsTo op.method op.path = requestsOf events := by
  have hon (r) (hr : r ∈ requestsOf events) :
      (r.method == op.method && r.path == op.path) = true := by
    rw [mem_requestsOf_iff] at hr
    obtain ⟨hmethod, hpath, -⟩ := Operation.isOnRoute_of_asks (hasks _ hr)
    rw [hmethod, hpath, beq_self_eq_true, beq_self_eq_true]
    rfl
  have hoff (r) (hr : r ∈ requestsOf (s.closing response ending)) :
      ¬(r.method == op.method && r.path == op.path) = true := by
    rw [mem_requestsOf_iff] at hr
    rw [Settings.eq_of_mem_closing hr, Bool.and_eq_true, beq_iff_eq, beq_iff_eq]
    exact fun h ↦ op.path_ne_quota h.2.symm
  rw [Routes.callsTo, hcalls, op.upper_method, requestsOf_append, List.filter_append,
    List.filter_eq_self.mpr hon, List.filter_eq_nil_iff.mpr hoff, List.append_nil]

/-- A call over fresh routes makes its requests, and then a probe that gets the answer that waits
for it. -/
theorem standard_run_over_routes
    (hasks : ∀ e ∈ events, Event.IsQuiet (op.call.Asks (.int s.perPage)) e) {m : Routes}
    (hfresh : m.calls = []) {quota : Scripted}
    (hquota : m.queue "GET" QuotaSnapshot.path = [quota.entry "GET" QuotaSnapshot.path])
    {fuel : Nat} {ending : Ending Answer}
    (hrun : (unwatched Routes.transport s).run fuel op { machine := m } =
      (ending, World.after Routes.transport { machine := m } events)) :
    let closing := s.closing (quota.response QuotaSnapshot.request) ending
    let played := (standard Routes.transport s).run fuel op { machine := m }
    played = (ending, World.after Routes.transport { machine := m } (events ++ closing)) ∧
      played.2.machine.calls = requestsOf (events ++ closing) ∧
      played.2.machine.callsTo op.method op.path = requestsOf events := by
  intro closing played
  have hother (e) (he : e ∈ events) : e.IsQuiet (·.path ≠ QuotaSnapshot.path) :=
    (hasks e he).mono fun _ ↦ Operation.path_ne_quota_of_asks
  -- The requests of the call leave the answer on the quota for the probe.
  have hprobe := Routes.probe_of_queue ((Routes.queue_machineAfter "GET" hother m).trans hquota)
  have hplayed : played = _ := standard_run_of_unwatched hrun hprobe
  rw [World.after_after] at hplayed
  have hcalls := calls_machineAfter_call hasks (quota.response QuotaSnapshot.request) ending m
  rw [hfresh, List.nil_append] at hcalls
  rw [hplayed, World.machine_after]
  exact ⟨rfl, hcalls, callsTo_of_calls hasks hcalls⟩

end

/-- Let a script wait on the route of an operation, and one answer on that of the probe, and
let a call over these routes use no more than the script holds.  If a session plays what the
call used and then the answer to the probe, and no body among them goes too deep, the call over
the network ends in the same way, after the same pauses and with the same on record, and each
request that the routes have kept was sent. -/
theorem run_over_network {s : Settings} {a : Api} {c₁ : Client Routes} {c₂ : Client Replies}
    (hc₁ : Client.ofSettings Routes.transport s = .ok c₁)
    (hc₂ : Client.ofSettings (a.transport Replies.session) s = .ok c₂)
    (op : Operation) (fuel : Nat) {m : Routes} (hfresh : m.calls = []) {script : List Scripted}
    (hscript : m.queue op.method op.path = script.map (·.entry op.method op.path))
    {quota : Scripted}
    (hquota : m.queue "GET" QuotaSnapshot.path = [quota.entry "GET" QuotaSnapshot.path]) {n : Nat}
    (hn : ((c₁.run fuel op { machine := m }).2.machine.callsTo op.method op.path).length = n)
    (hlong : n ≤ script.length) (hdepth : ∀ x ∈ script.take n ++ [quota], ¬x.IsTooDeep a) :
    let played := c₁.run fuel op { machine := m }
    let sent := c₂.run fuel op
      { machine := { waiting := (script.take n ++ [quota]).map Scripted.reply } }
    sent.1 = played.1 ∧ sent.2.trace = played.2.trace ∧
      sent.2.machine.sent = played.2.machine.calls.map a.outgoing := by
  obtain ⟨-, -, rfl⟩ := Client.ofSettings_eq_ok_iff.mp hc₁
  obtain ⟨-, -, rfl⟩ := Client.ofSettings_eq_ok_iff.mp hc₂
  obtain ⟨ending, events, hasks, hrun⟩ :=
    unwatched_run_alike s op fuel Routes.transport { machine := m }
  have hroute (e) (he : e ∈ events) : e.IsQuiet (Routes.IsOnRoute op.method op.path) :=
    (hasks e he).mono fun _ ↦ Operation.isOnRoute_of_asks
  obtain ⟨hrun₁, hcalls, hcallsTo⟩ := standard_run_over_routes hasks hfresh hquota
    (hrun Routes.transport { machine := m } rfl)
  rw [hcallsTo] at hn
  -- Its requests get the same responses from the session, and so does the probe.
  have hcount : (requestsOf events).length = (script.take n).length := by
    rw [hn, List.length_take, Nat.min_eq_left hlong]
  have hwaits₁ : Routes.Awaits op.method op.path (script.take n ++ script.drop n) m := by
    rw [List.take_append_drop]
    exact hscript
  have hwaits₂ : a.Awaits (script.take n ++ [quota])
      { waiting := (script.take n ++ [quota]).map Scripted.reply } := ⟨rfl, hdepth⟩
  have hplay₁ := (Routes.plays op.upper_method op.path).exchanges_eq hroute hcount hwaits₁
  have hplay₂ := (Api.plays a).exchanges_eq (fun e he ↦ (hroute e he).mono fun _ _ ↦ trivial)
    hcount hwaits₂
  have hprobe₂ := (Api.plays a (r := QuotaSnapshot.request) trivial hplay₂.2).1
  have hrun₂ := standard_run_of_unwatched (hrun (a.transport Replies.session)
    { machine := { waiting := (script.take n ++ [quota]).map Scripted.reply } }
    (hplay₂.1.trans hplay₁.1.symm)) hprobe₂
  rw [World.after_after] at hrun₂
  rw [hrun₁] at hcalls
  rw [hrun₁, hrun₂]
  refine ⟨rfl, rfl, ?_⟩
  rw [hcalls, World.machine_after, Api.sent_machineAfter]
  rfl

/-- A first answer that goes too deep raises what the reader raised, whatever comes next but an
answer to the probe. -/
theorem run_raised_of_tooDeep {s : Settings} {a : Api} {c : Client Replies}
    (hc : Client.ofSettings (a.transport Replies.session) s = .ok c) (op : Operation) (fuel : Nat)
    {body : List UInt8} {container : Kind}
    (hbody : a.payload body = .error (.nestedTooDeeply container)) (status : Int)
    (headers : Headers) {quota : Scripted} (hquota : ¬quota.IsTooDeep a) :
    (c.run fuel op
        { machine := { waiting := [.answered status headers body, quota.reply] } }).1 =
      .raised (.fault (.nestedTooDeeply container)) := by
  obtain ⟨-, -, rfl⟩ := Client.ofSettings_eq_ok_iff.mp hc
  obtain ⟨hfirst, hwaiting⟩ := Api.transport_of_tooDeep a (firstRequest s op) hbody
    (m := { waiting := [.answered status headers body, quota.reply] }) rfl
  have hwaits : a.Awaits [quota] (a.transport Replies.session (firstRequest s op)
      { waiting := [.answered status headers body, quota.reply] }).2 :=
    ⟨hwaiting, by simpa using hquota⟩
  have hprobe := (Api.plays a (r := QuotaSnapshot.request) trivial hwaits).1
  rw [standard_run_of_unwatched (unwatched_run_of_raised hfirst) hprobe]

end Client

namespace Routes

/-- Routes on which a script waits for an operation, and one answer for the probe. -/
def scripted (op : Operation) (script : List Scripted) (quota : Scripted) : Routes where
  entries := script.map (·.entry op.method op.path) ++ [quota.entry "GET" QuotaSnapshot.path]

variable (op : Operation) (script : List Scripted) (quota : Scripted)

theorem queue_scripted : (scripted op script quota).queue op.method op.path =
    script.map (·.entry op.method op.path) := by
  simp [scripted, queue, op.path_ne_quota.symm]

theorem queue_scripted_quota : (scripted op script quota).queue "GET" QuotaSnapshot.path =
    [quota.entry "GET" QuotaSnapshot.path] := by
  simp [scripted, queue, op.path_ne_quota]

end Routes

/-- The comments of an issue. -/
def Operation.comments : Operation := .issueComments ⟨"o", "r", 1⟩

/-- What is left of a quota. -/
def Scripted.quota : Scripted :=
  .answered 200 [] (Text.Utf8.encode ("\x7b\"resources\": \x7b\"core\": " ++
    "\x7b\"limit\": 5000, \"remaining\": 4990, \"reset\": 1\x7d\x7d\x7d").toList)

/-- A connection that fails, two pages, and an answer that is not needed. -/
def Scripted.twoPages : List Scripted :=
  [.failed "reset" (by decide),
    .answered 200 [("Link", .text "<https://api.github.com/comments?page=2>; rel=\"next\"")]
      (Text.Utf8.encode "[\x7b\"id\": 1\x7d]".toList),
    .answered 200 [] (Text.Utf8.encode "[\x7b\"id\": 2\x7d]".toList),
    .answered 404 [] []]

theorem Scripted.not_isTooDeep_twoPages : ∀ x ∈ twoPages.take 3 ++ [quota], ¬x.IsTooDeep {} := by
  simp only [twoPages, List.take_succ_cons, List.take_zero, List.cons_append, List.nil_append,
    List.forall_mem_cons, List.not_mem_nil, false_imp_iff, implies_true, and_true]
  refine ⟨id, Api.not_goesTooDeep_of_isOk ?_, Api.not_goesTooDeep_of_isOk ?_,
    Api.not_goesTooDeep_of_isOk ?_⟩ <;> decide +kernel

/-- Three requests for pages are made. -/
theorem Client.twoPages_run_over_network :
    let played := (Client.standard Routes.transport {}).run 5 .comments
      { machine := .scripted .comments Scripted.twoPages .quota }
    let waiting := (Scripted.twoPages.take 3 ++ [Scripted.quota]).map Scripted.reply
    let sent := (Client.standard (Api.transport {} Replies.session) {}).run 5 .comments
      { machine := { waiting } }
    (played.2.machine.callsTo Operation.comments.method Operation.comments.path).length = 3 ∧
      sent.1 = played.1 ∧ sent.2.trace = played.2.trace ∧
      sent.2.machine.sent = played.2.machine.calls.map ({} : Api).outgoing := by
  intro played waiting sent
  have hc₁ : Client.ofSettings Routes.transport {} = .ok (Client.standard Routes.transport {}) :=
    Client.ofSettings_eq_ok_iff.mpr ⟨by decide, by decide, rfl⟩
  have hc₂ : Client.ofSettings (Api.transport {} Replies.session) {} =
      .ok (Client.standard (Api.transport {} Replies.session) {}) :=
    Client.ofSettings_eq_ok_iff.mpr ⟨by decide, by decide, rfl⟩
  have hn : (played.2.machine.callsTo Operation.comments.method Operation.comments.path).length =
      3 := by decide +kernel
  have hlong : 3 ≤ Scripted.twoPages.length := by decide
  exact ⟨hn, Client.run_over_network hc₁ hc₂ .comments 5 rfl (Routes.queue_scripted ..)
    (Routes.queue_scripted_quota ..) hn hlong Scripted.not_isTooDeep_twoPages⟩

/-- A text of brackets. -/
def Scripted.brackets (n : Nat) : Scripted := .answered 200 [] (List.replicate n 0x5B)

/-- No operation finds items in a text. -/
theorem Shape.read_text (shape : Shape) (room : Room) (text : String) :
    shape.read room (.text text) = .ok [] := by
  cases shape <;> rfl

/-- Nor is there anything in no items that could lack room. -/
theorem Shape.conclude_nil (shape : Shape) (room : Room) :
    shape.conclude room [] = .ok (shape.answer []) := by
  cases shape <;> rfl

namespace Client

/-- Too many brackets are a text without items on a route, and end the call there.  Over the
network they are raised as a fault. -/
theorem run_brackets {s : Settings} {a : Api} {c₁ : Client Routes} {c₂ : Client Replies}
    (hc₁ : Client.ofSettings Routes.transport s = .ok c₁)
    (hc₂ : Client.ofSettings (a.transport Replies.session) s = .ok c₂)
    (op : Operation) (fuel : Nat) {n : Nat} (hn : a.depth < n) {quota : Scripted}
    (hquota : ¬quota.IsTooDeep a) :
    let played := c₁.run fuel op { machine := .scripted op [.brackets n] quota }
    let sent := c₂.run fuel op
      { machine := { waiting := [Scripted.brackets n, quota].map Scripted.reply } }
    (played.2.machine.callsTo op.method op.path).length = 1 ∧
      played.1 = .returned (op.shape.answer []) ∧
      sent.1 = .raised (.fault (.nestedTooDeeply .list)) := by
  have hraised := run_raised_of_tooDeep hc₂ op fuel (Api.payload_brackets hn) 200 [] hquota
  obtain ⟨-, -, rfl⟩ := Client.ofSettings_eq_ok_iff.mp hc₁
  -- The first answer on the route is a page without items, and the last one.
  let m := Routes.scripted op [.brackets n] quota
  have hasks : op.call.Asks (.int s.perPage) (firstRequest s op) :=
    ⟨firstPage, Numeral.isReadable_of_lt_pow 1 (by decide) (by decide), rfl⟩
  have hanswer : (Routes.transport (firstRequest s op) m).1 =
      .ok ((Scripted.brackets n).response (firstRequest s op)) :=
    (Routes.plays op.upper_method op.path (Operation.isOnRoute_of_asks hasks)
      (Routes.queue_scripted op [.brackets n] quota)).1
  have hitems : op.shape.read s.room ((Scripted.brackets n).response (firstRequest s op)).payload =
      .ok [] := by
    show op.shape.read s.room (Api.meaning (List.replicate n 0x5B)) = _
    rw [Api.meaning_brackets (Nat.zero_lt_of_lt hn), Shape.read_text]
  have hlast : op.call.nextPage ((Scripted.brackets n).response (firstRequest s op)) =
      .ok none := by
    unfold Call.nextPage
    split <;> rfl
  have hrun : (unwatched Routes.transport s).run fuel op { machine := m } = _ :=
    unwatched_run_of_last hanswer ⟨rfl, show (200 : Int) < 404 by decide⟩ hitems hlast
      (op.shape.conclude_nil s.room)
  have hquiet (e) (he : e ∈ [Event.requested (firstRequest s op)]) :
      e.IsQuiet (op.call.Asks (.int s.perPage)) := by
    obtain rfl := List.mem_singleton.mp he
    exact hasks
  obtain ⟨hwhole, -, hcalls⟩ := standard_run_over_routes hquiet (m := m) rfl
    (Routes.queue_scripted_quota op _ quota) hrun
  exact ⟨congrArg List.length hcalls, congrArg Prod.fst hwhole, hraised⟩

theorem brackets_not_over_network :
    let s : Settings := { retryAttempts := 1 }
    let played := (standard Routes.transport s).run 0 .comments
      { machine := .scripted .comments [.brackets 5000] .quota }
    let sent := (standard (Api.transport {} Replies.session) s).run 0 .comments
      { machine := { waiting := [Scripted.brackets 5000, Scripted.quota].map Scripted.reply } }
    (played.2.machine.callsTo Operation.comments.method Operation.comments.path).length = 1 ∧
      played.1 = .returned (.rows []) ∧
      sent.1 = .raised (.fault (.nestedTooDeeply .list)) := by
  have hquota : ¬Scripted.quota.IsTooDeep {} := Api.not_goesTooDeep_of_isOk (by decide +kernel)
  exact run_brackets (Client.ofSettings_eq_ok_iff.mpr ⟨by decide, by decide, rfl⟩)
    (Client.ofSettings_eq_ok_iff.mpr ⟨by decide, by decide, rfl⟩) .comments 0 (by decide) hquota

end Client

end PullRelay
