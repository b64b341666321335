import PullRelay.Proofs.Json.Depth
import PullRelay.Proofs.Pipeline.Alike
import PullRelay.Proofs.Transport.Queues
import PullRelay.Transport.Api

/-!
# Scripts of answers

A script says how a server answers, one request after the other.  It can be played in two
ways: by entries that wait on one route of a scripted transport, and by the replies of a
session, under a transport that goes over the network.  Both give the same response to the
same request (`Routes.plays`, `Api.plays`), as long as no body goes too deep to be read,
so that the exchanges along a trace are the requests of the trace side by side with the
script (`Transport.Plays.exchanges_eq`).
-/

namespace PullRelay

variable {σ : Type}

/-! ## Bodies -/

/-- What a body means: nothing if it is empty, the value of a document, however deep it goes,
or else the text itself. -/
def Api.meaning (body : List UInt8) : Value :=
  if body.isEmpty then .null
  else
    let text := String.ofList (Text.Utf8.decode body)
    match Json.readWithin text.toList.length text with
    | .ok v => v
    | .error _ => .text text

/-- A document in the body goes too deep to be read. -/
def Api.GoesTooDeep (a : Api) (body : List UInt8) : Prop :=
  ∃ container, a.payload body = .error (.nestedTooDeeply container)

/-- Otherwise the payload is what the body means. -/
theorem Api.payload_eq_meaning {a : Api} {body : List UInt8} (h : ¬a.GoesTooDeep body) :
    a.payload body = .ok (meaning body) := by
  unfold GoesTooDeep payload at h
  unfold payload meaning
  split
  · rfl
  next hbody =>
    rw [if_neg hbody] at h
    generalize String.ofList (Text.Utf8.decode body) = text at h ⊢
    have hfits : Json.Fits (Json.readWithin a.depth text) := by
      intro container hread
      exact h ⟨container, by simp only [hread]⟩
    dsimp only
    rw [← Json.readWithin_eq_of_fits hfits]
    cases hread : Json.readWithin a.depth text with
    | ok v => rfl
    | error fault =>
      cases fault with
      | malformed => rfl
      | tooDeep container => exact absurd hread (hfits container)

theorem Api.not_goesTooDeep_of_isOk {a : Api} {body : List UInt8}
    (h : (a.payload body).isOk = true) : ¬a.GoesTooDeep body := by
  rintro ⟨container, hpayload⟩
  rw [hpayload] at h
  cases h

theorem Text.Utf8.decode_brackets (n : Nat) :
    decode (List.replicate n 0x5B) = List.replicate n '[' := by
  induction n with
  | zero => rfl
  | succ n ih => exact congrArg ('[' :: ·) ih

/-- Too many brackets are refused before it is found that they are no document. -/
theorem Api.payload_brackets {a : Api} {n : Nat} (h : a.depth < n) :
    a.payload (List.replicate n 0x5B) = .error (.nestedTooDeeply .list) := by
  have hbody : (List.replicate n (0x5B : UInt8)).isEmpty = false := by
    rw [List.isEmpty_replicate]
    simpa using Nat.ne_of_gt (Nat.zero_lt_of_lt h)
  simp only [payload, hbody, Text.Utf8.decode_brackets, Json.readWithin_brackets, if_pos h,
    Bool.false_eq_true, if_false]

/-- But they are none. -/
theorem Api.meaning_brackets {n : Nat} (h : 0 < n) :
    meaning (List.replicate n 0x5B) = .text (String.ofList (List.replicate n '[')) := by
  have hbody : (List.replicate n (0x5B : UInt8)).isEmpty = false := by
    rw [List.isEmpty_replicate]
    simpa using Nat.ne_of_gt h
  simp only [meaning, hbody, Text.Utf8.decode_brackets, Json.readWithin_brackets,
    String.toList_ofList, List.length_replicate, Nat.lt_irrefl, Bool.false_eq_true, if_false]

/-! ## Scripts -/

/-- How a server answers a request. -/
inductive Scripted where
  | answered (status : Int) (headers : Headers) (body : List UInt8)
  /-- The connection fails, and there is something to say about it. -/
  | failed (text : String) (nonempty : text ≠ "")

namespace Scripted

/-- The response to a request. -/
def response (r : Request) : Scripted → Response
  | .answered status headers body => { status, headers, payload := Api.meaning body }
  | .failed text _ => Api.disconnected r text

/-- The answer as an entry on a route, for any page and to be used once. -/
def entry (method path : String) : Scripted → RouteEntry
  | .answered status headers body =>
    { method, path, status, headers, payload := Api.meaning body }
  | .failed text _ => { method, path, status := 0, failure := text }

/-- The answer as the reply of a session. -/
def reply : Scripted → Reply
  | .answered status headers body => .answered status headers body
  | .failed text _ => .disconnected text

/-- The body of the answer goes too deep to be read. -/
def IsTooDeep (a : Api) : Scripted → Prop
  | .answered _ _ body => a.GoesTooDeep body
  | .failed _ _ => False

theorem response_entry (r : Request) (x : Scripted) :
    (x.entry r.method r.path).response = x.response r := by
  cases x with
  | answered status headers body => rfl
  | failed text nonempty => simp [RouteEntry.response, entry, response, Api.disconnected, nonempty]

@[simp] theorem method_entry (x : Scripted) (method path : String) :
    (x.entry method path).method = method := by cases x <;> rfl

@[simp] theorem path_entry (x : Scripted) (method path : String) :
    (x.entry method path).path = path := by cases x <;> rfl

theorem serves_entry (x : Scripted) (method path : String) (page : Option Int) :
    (x.entry method path).serves method path page = true := by
  cases x <;> simp [RouteEntry.serves, RouteEntry.servesPage, entry]

theorem persist_entry (x : Scripted) (method path : String) :
    (x.entry method path).persist = false := by
  cases x <;> rfl

end Scripted

/-- While answers wait, the requests that are such as `p` says get them in order. -/
def Transport.Plays (t : Transport σ) (p : Request → Prop)
    (waits : List Scripted → σ → Prop) : Prop :=
  ∀ ⦃r m x rest⦄, p r → waits (x :: rest) m →
    (t r m).1 = .ok (x.response r) ∧ waits rest (t r m).2

/-- The exchanges when requests get these answers. -/
def Scripted.exchanges (requests : List Request) (script : List Scripted) : List Exchange :=
  List.zipWith (fun r x ↦ ⟨r, .ok (x.response r)⟩) requests script

namespace Transport.Plays

variable {t : Transport σ} {p : Request → Prop} {waits : List Scripted → σ → Prop}
  {script later : List Scripted} {events : List Event} {m : σ}

theorem exchanges_eq (h : t.Plays p waits) (hquiet : ∀ e ∈ events, e.IsQuiet p)
    (hlength : (requestsOf events).length = script.length) (hm : waits (script ++ later) m) :
    t.exchanges m events = Scripted.exchanges (requestsOf events) script ∧
      waits later (t.machineAfter m events) := by
  induction events generalizing m script with
  | nil =>
    obtain rfl := List.length_eq_zero_iff.mp hlength.symm
    exact ⟨rfl, hm⟩
  | cons e events ih =>
    have hrest (e) (he : e ∈ events) := hquiet e (List.mem_cons_of_mem _ he)
    have he := hquiet e List.mem_cons_self
    cases e with
    | requested r =>
      cases script with
      | nil => cases hlength
      | cons x script =>
        obtain ⟨hanswer, hwaits⟩ := h he hm
        obtain ⟨hexchanges, hlater⟩ := ih hrest (Nat.succ.inj hlength) hwaits
        refine ⟨?_, hlater⟩
        show ⟨r, (t r m).1⟩ :: t.exchanges (t r m).2 events = _
        rw [hanswer, hexchanges]
        rfl
    | _ => exact ih hrest hlength hm

end Transport.Plays

/-! ## Scripted routes -/

namespace Routes

/-- The answers wait on a route. -/
def Awaits (method path : String) (script : List Scripted) (m : Routes) : Prop :=
  m.queue method path = script.map (·.entry method path)

/-- A request on the route, for a page that can be read. -/
def IsOnRoute (method path : String) (r : Request) : Prop :=
  r.method = method ∧ r.path = path ∧ ∃ page, pageOf r.params = .ok page

/-- Entries on a route play a script. -/
theorem plays {method : String} (hmethod : Text.upper method = method) (path : String) :
    transport.Plays (IsOnRoute method path) (Awaits method path) := by
  rintro r m x rest ⟨rfl, rfl, page, hpage⟩ hm
  obtain ⟨entries, htake, hrest⟩ := take?_of_queue hm (x.serves_entry r.method r.path page)
  rw [x.persist_entry, if_neg Bool.false_ne_true] at hrest
  rw [transport_of_page hpage, hmethod, htake]
  exact ⟨congrArg _ (x.response_entry r), hrest⟩

/-- All requests of a trace are on record. -/
theorem calls_machineAfter {events : List Event}
    (h : ∀ r ∈ requestsOf events, Text.upper r.method = r.method) (m : Routes) :
    (transport.machineAfter m events).calls = m.calls ++ requestsOf events := by
  have hlog (r) (hr : r ∈ requestsOf events) (m : Routes) :
      (transport r m).2.calls = m.calls ++ [r] := by
    rw [calls_transport, asked, h r hr]
  have hcalls := transport.log_machineAfter hlog m
  rwa [List.map_id'] at hcalls

end Routes

/-! ## Sessions -/

namespace Api

/-- The answers wait as replies, and none of them goes too deep. -/
def Awaits (a : Api) (script : List Scripted) (m : Replies) : Prop :=
  m.waiting = script.map Scripted.reply ∧ ∀ x ∈ script, ¬x.IsTooDeep a

/-- Replies of a session play a script. -/
theorem plays (a : Api) : (a.transport Replies.session).Plays (fun _ ↦ True) a.Awaits := by
  rintro r m x rest - ⟨hwaiting, hdepth⟩
  obtain ⟨hx, hrest⟩ := List.forall_mem_cons.mp hdepth
  have hreply : Replies.session (a.outgoing r) m =
      (x.reply, { waiting := rest.map Scripted.reply, sent := m.sent ++ [a.outgoing r] }) := by
    rw [Replies.session, hwaiting]
    rfl
  cases x with
  | answered status headers body =>
    have hpayload := payload_eq_meaning hx
    simp only [transport, hreply, Scripted.reply, hpayload]
    exact ⟨rfl, rfl, hrest⟩
  | failed text nonempty =>
    simp only [transport, hreply, Scripted.reply]
    exact ⟨rfl, rfl, hrest⟩

/-- A body that goes too deep makes the request raise what the reader raised. -/
theorem transport_of_tooDeep (a : Api) (r : Request) {m : Replies} {status : Int}
    {headers : Headers} {body : List UInt8} {rest : List Reply} {container : Kind}
    (hbody : a.payload body = .error (.nestedTooDeeply container))
    (hwaiting : m.waiting = .answered status headers body :: rest) :
    (a.transport Replies.session r m).1 = .error (.fault (.nestedTooDeeply container)) ∧
      (a.transport Replies.session r m).2.waiting = rest := by
  have hreply : Replies.session (a.outgoing r) m =
      (.answered status headers body, { waiting := rest, sent := m.sent ++ [a.outgoing r] }) := by
    rw [Replies.session, hwaiting]
    rfl
  rw [transport, hreply]
  dsimp only
  rw [hbody]
  exact ⟨rfl, rfl⟩

/-- What comes of a reply to a request. -/
def answer (a : Api) (r : Request) : Reply → Except Failure Response
  | .answered status headers body =>
    ((a.payload body).mapError .fault).map fun payload ↦ { status, headers, payload }
  | .disconnected text => .ok (disconnected r text)
  | .crashed failure => .error failure

/-- A request is sent as the server is told to, and the answer depends on the reply alone. -/
theorem transport_eq (a : Api) (session : Session σ) (r : Request) (m : σ) :
    a.transport session r m =
      (a.answer r (session (a.outgoing r) m).1, (session (a.outgoing r) m).2) := by
  rw [transport]
  rcases session (a.outgoing r) m with ⟨_ | _ | _, _⟩ <;> rfl

/-- Every request is sent. -/
theorem sent_transport (a : Api) (r : Request) (m : Replies) :
    (a.transport Replies.session r m).2.sent = m.sent ++ [a.outgoing r] := by
  rw [transport_eq, Replies.sent_session]

/-- All requests of a trace were sent. -/
theorem sent_machineAfter (a : Api) (events : List Event) (m : Replies) :
    ((a.transport Replies.session).machineAfter m events).sent =
      m.sent ++ (requestsOf events).map a.outgoing :=
  (a.transport Replies.session).log_machineAfter (fun r _ ↦ a.sent_transport r) m

end Api

end PullRelay
