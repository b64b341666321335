import PullRelay.Proofs.Client.Network
import PullRelay.Proofs.Command.Conclusions
import PullRelay.Proofs.Json.Rereading
import PullRelay.Proofs.Text.Utf8

/-!
# Documents that commands print

A document that a command prints can be the body of a response.  It is decoded as the value that
was printed, with its fields in order, as long as its containers are no deeper inside one another
than the decoder goes (`Api.payload_body`).  So a pull request that was printed is printed once
more, to the letter, if a server gives the document away as its own (`Command.printed_read_back`).
-/

namespace PullRelay

variable {σ : Type}

/-! ## Bodies -/

/-- What is printed, in bytes. -/
def Conclusion.body (c : Conclusion) : List UInt8 := Text.Utf8.encode c.document.toList

namespace Api

/-- A body that is not empty is decoded as the text that it encodes. -/
theorem payload_encode (a : Api) {text : String}
    (h : (Text.Utf8.encode text.toList).isEmpty = false) :
    a.payload (Text.Utf8.encode text.toList) =
      match Json.readWithin a.depth text with
      | .ok v => .ok v
      | .error .malformed => .ok (.text text)
      | .error (.tooDeep container) => .error (.nestedTooDeeply container) := by
  rw [payload, h, Text.Utf8.decode_encode, String.ofList_toList]
  rfl

theorem isEmpty_body_printed (v : Value) : (Conclusion.printed v).body.isEmpty = false := by
  have hlast : (Conclusion.printed v).document.toList = (Json.print v).toList ++ ['\n'] :=
    String.toList_append
  have hencode (cs : List Char) : (Text.Utf8.encode (cs ++ ['\n'])).isEmpty = false := by
    rw [Text.Utf8.encode, List.flatMap_append]
    simp [Text.Utf8.encodeChar]
  rw [Conclusion.body, hlast, hencode]

/-- A document is decoded as the value that was printed. -/
theorem payload_body {a : Api} {v : Value} (hv : v.IsDocument) (hdepth : v.depth ≤ a.depth) :
    a.payload (Conclusion.printed v).body = .ok v.sorted := by
  rw [Conclusion.body, payload_encode a (isEmpty_body_printed v), Conclusion.document,
    Json.readWithin_print hv hdepth]

/-- One that is too deep is not decoded. -/
theorem payload_body_of_lt {a : Api} {v : Value} (hv : v.IsDocument) (hdepth : a.depth < v.depth) :
    ∃ container, a.payload (Conclusion.printed v).body = .error (.nestedTooDeeply container) := by
  obtain ⟨container, hread⟩ := Json.readWithin_print_of_lt hv hdepth
  refine ⟨container, ?_⟩
  rw [Conclusion.body, payload_encode a (isEmpty_body_printed v), Conclusion.document, hread]

/-- The server has the body for a request, and then answers a probe. -/
def Serves (a : Api) (session : Session σ) (m : σ) (r : Request) (body : List UInt8) : Prop :=
  ∃ status headers m', session (a.outgoing r) m = (.answered status headers body, m') ∧
    status < 404 ∧ ∃ response, (a.transport session QuotaSnapshot.request m').1 = .ok response

end Api

/-! ## Pull requests -/

namespace Command

/-- The request for a pull request. -/
def pullRequest (name : RepositoryName) (number : Int) : Request where
  method := "GET"
  path := Operation.pull name.owner name.repo (.int number)

variable {t : Transport σ} {env : Environment} {fuel : Nat} {name : RepositoryName} {number : Int}
  {w : World σ} {room : Room}

/-- Only objects are printed for pull requests. -/
theorem exists_fields_of_printed {v : Value}
    (h : ((Command.read .pull name number).run fuel t env w room).1 = .printed v) :
    ∃ fields, v = .object fields := by
  have hreach := (Conclusion.of_emitted_eq_printed h).1
  simp only [reach, Query.operation, withClient_eq] at hreach
  cases hs : Settings.ofEnv env with
  | error fault => simp [hs] at hreach
  | ok s =>
    simp only [hs, Client.run] at hreach
    generalize ((Client.standard t { s with room }).execute fuel _ w).1 = ending at hreach
    cases ending with
    | returned items =>
      cases hreach
      exact ⟨_, rfl⟩
    | raised f =>
      simp only [Ending.mapExcept, Conclusion.ofEnding, Conclusion.ofFailure] at hreach
      split at hreach <;> cases hreach
    | unfinished => cases hreach

/-- A good answer with an object is printed, if its probe is answered and there is room. -/
theorem run_pull_of_answered {s : Settings} (hs : Settings.ofEnv env = .ok s) {response : Response}
    {m : σ} (hanswer : t (pullRequest name number) w.machine = (.ok response, m))
    (hgood : response.error = none ∧ response.status < 404) {fields : List (String × Value)}
    (hpayload : response.payload = .object fields)
    (hroom : Json.checkPrint room.document (.object fields) = .ok ())
    (hprobe : ∃ response, (t QuotaSnapshot.request m).1 = .ok response) :
    ((Command.read .pull name number).run fuel t env w room).1 = .printed (.object fields) := by
  obtain ⟨answer, hprobe⟩ := hprobe
  let op : Operation := .pullRequest name.owner name.repo (.int number)
  have hread : op.shape.read room response.payload = .ok [.row fields] := by rw [hpayload]; rfl
  have hrun : (Client.unwatched t { s with room }).run fuel op w =
      (.returned (.record fields), w.after t [.requested (pullRequest name number)]) :=
    Client.unwatched_run_of_last (congrArg Prod.fst hanswer) hgood hread rfl rfl
  have hmachine : (w.after t [.requested (pullRequest name number)]).machine = m :=
    congrArg Prod.snd hanswer
  have hwatched := Client.standard_run_of_unwatched hrun (hmachine ▸ hprobe)
  have hreach : ((Command.read .pull name number).reach room fuel t env w).1 =
      .printed (.object fields) := by
    simp only [reach, Query.operation, withClient_eq, hs]
    exact congrArg (fun final ↦ Conclusion.ofEnding final.1) hwatched
  rw [run, hreach, Conclusion.emitted, hroom]

theorem run_pull_of_serves {a : Api} {session : Session σ} (hs : (Settings.ofEnv env).isOk)
    {body : List UInt8} (hserves : a.Serves session w.machine (pullRequest name number) body)
    {fields : List (String × Value)} (hpayload : a.payload body = .ok (.object fields))
    (hroom : Json.checkPrint room.document (.object fields) = .ok ()) :
    ((Command.read .pull name number).run fuel (a.transport session) env w room).1 =
      .printed (.object fields) := by
  obtain ⟨s, hs⟩ : ∃ s, Settings.ofEnv env = .ok s := by
    cases h : Settings.ofEnv env with
    | ok s => exact ⟨s, rfl⟩
    | error fault => simp [h, Except.isOk, Except.toBool] at hs
  obtain ⟨status, headers, m, hreply, hstatus, hprobe⟩ := hserves
  have hanswer : a.transport session (pullRequest name number) w.machine =
      (.ok { status, headers, payload := .object fields }, m) := by
    rw [Api.transport_eq, hreply, Api.answer, hpayload]
    rfl
  exact run_pull_of_answered hs hanswer ⟨rfl, hstatus⟩ rfl hroom hprobe

/-- A value is printed where there is room for its containers, and what is printed for it is
decoded as this value again, up to the order of fields, where the decoder goes as deep as they do.
So the document of a pull request, given away by a server as the body of a response, is printed
once more, to the letter. -/
theorem printed_read_back {v : Value} (hv : v.IsDocument) {a : Api} (hdepth : v.depth ≤ a.depth) :
    (∀ room, v.depth < room → Json.checkPrint room v = .ok ()) ∧
    (∃ v', a.payload (Conclusion.printed v).body = .ok v' ∧ v.Rearranges v') ∧
    ∀ ⦃σ₀ : Type⦄ (t : Transport σ₀) (env₀ : Environment) (fuel₀ : Nat) (name₀ : RepositoryName)
      (number₀ : Int) (w₀ : World σ₀) (room₀ : Room),
      ((Command.read .pull name₀ number₀).run fuel₀ t env₀ w₀ room₀).1 = .printed v →
      ∀ ⦃σ : Type⦄ (session : Session σ) (env : Environment) (fuel : Nat)
        (name : RepositoryName) (number : Int) (w : World σ) (room : Room),
        (Settings.ofEnv env).isOk → Json.checkPrint room.document v = .ok () →
        a.Serves session w.machine (pullRequest name number) (Conclusion.printed v).body →
        ((Command.read .pull name number).run fuel (a.transport session) env w room).1.document =
          (Conclusion.printed v).document := by
  have hpayload := Api.payload_body hv hdepth
  refine ⟨fun room ↦ hv.checkPrint, ⟨v.sorted, hpayload, Value.rearranges_sorted hv⟩, ?_⟩
  intro σ₀ t env₀ fuel₀ name₀ number₀ w₀ room₀ hfirst σ session env fuel name number w room hs hroom
    hserves
  obtain ⟨fields, rfl⟩ := exists_fields_of_printed hfirst
  rw [← Value.checkPrint_sorted, Json.sorted_object] at hroom
  rw [Json.sorted_object] at hpayload
  rw [run_pull_of_serves hs hserves hpayload hroom, ← Json.sorted_object, Conclusion.document,
    Json.print_sorted hv]
  rfl

end Command

/-- A pull request with its fields out of order. -/
def Value.unordered : Value :=
  .object [("title", .text "a\"b\\c\n\x07é𝄞"), ("labels", .list [.null, .bool true, .list []]),
    ("base", .object [("sha", .text "/"), ("depth", .int (-12)), ("", .object [])])]

theorem Value.isDocument_unordered : unordered.IsDocument := by
  have hint : Numeral.IsReadable (-12) := Numeral.isReadable_of_lt_pow 2 (by decide) (by decide)
  refine .object (by decide) ?_
  simp only [List.forall_mem_cons, List.not_mem_nil, false_imp_iff, implies_true, and_true]
  refine ⟨.text _, .list ?_, .object (by decide) ?_⟩
  · simp only [List.forall_mem_cons, List.not_mem_nil, false_imp_iff, implies_true, and_true]
    exact ⟨.null, .bool true, .list nofun⟩
  · simp only [List.forall_mem_cons, List.not_mem_nil, false_imp_iff, implies_true, and_true]
    exact ⟨.text _, .int hint, .object List.nodup_nil nofun⟩

/-- Routes to one pull request. -/
def Routes.unordered : Routes :=
  { entries := [{ method := "GET", path := "/repos/o/r/pulls/7", payload := .unordered }] }

namespace Command

theorem run_unordered :
    ((Command.read .pull ⟨"o", "r"⟩ 7).run 0 Routes.transport [] { machine := .unordered }).1 =
      .printed .unordered :=
  run_pull_of_answered (s := {}) rfl rfl ⟨rfl, by decide⟩ rfl
    (Value.isDocument_unordered.checkPrint (by decide)) ⟨_, rfl⟩

end Command

/-- A reply with the body comes first, and then one to the probe. -/
theorem Api.serves_replies (r : Request) (body : List UInt8) :
    Api.Serves {} Replies.session { waiting := [.answered 200 [] body, Scripted.quota.reply] } r
      body := by
  have hquota : ¬Scripted.quota.IsTooDeep {} := not_goesTooDeep_of_isOk (by decide +kernel)
  refine ⟨200, [], { waiting := [Scripted.quota.reply], sent := [outgoing {} r] }, rfl, by decide, ?_⟩
  exact ⟨_, (plays {} trivial ⟨rfl, List.forall_mem_singleton.mpr hquota⟩).1⟩

namespace Command

/-- It is printed from a route, and what is printed goes over the network. -/
theorem unordered_read_back :
    let pull : Command := .read .pull ⟨"o", "r"⟩ 7
    let printed := (pull.run 0 Routes.transport [] { machine := .unordered }).1
    let again := (pull.run 0 (Api.transport {} Replies.session) []
      { machine := { waiting := [.answered 200 [] printed.body, Scripted.quota.reply] } }).1
    printed = .printed .unordered ∧
      (∃ v', ({} : Api).payload (Conclusion.printed .unordered).body = .ok v' ∧
        Value.unordered.Rearranges v') ∧
      again.document = printed.document := by
  intro pull printed again
  have hprinted : printed = .printed .unordered := run_unordered
  obtain ⟨hprints, hread, hagain⟩ :=
    printed_read_back (a := {}) Value.isDocument_unordered (by decide)
  refine ⟨hprinted, hread, ?_⟩
  have hserves := Api.serves_replies (pullRequest ⟨"o", "r"⟩ 7) printed.body
  rw [hprinted] at hserves
  have hdocument := hagain Routes.transport [] 0 ⟨"o", "r"⟩ 7 { machine := .unordered } {}
    hprinted Replies.session [] 0 ⟨"o", "r"⟩ 7 { machine := _ } {} rfl (hprints _ (by decide)) hserves
  rw [← hprinted] at hdocument
  exact hdocument

end Command

/-- An empty list with `n` lists around it. -/
def Value.nested : Nat → Value
  | 0 => .list []
  | n + 1 => .list [nested n]

theorem Value.isDocument_nested (n : Nat) : (nested n).IsDocument := by
  induction n with
  | zero => exact .list nofun
  | succ n ih => exact .list (List.forall_mem_singleton.mpr ih)

theorem Value.depth_nested (n : Nat) : (nested n).depth = n + 1 := by
  induction n with
  | zero => rfl
  | succ n ih => rw [nested, depth, depthOfItems, depthOfItems, ih, Nat.max_zero]

/-- So many lists are printed, but they are not read back, since the decoder does not go as
deep. -/
theorem Api.nested_not_read_back :
    (Value.nested 980).IsDocument ∧
      (Conclusion.printed (.nested 980)).emitted ({} : Room).document = .printed (.nested 980) ∧
      ¬∃ v', ({} : Api).payload (Conclusion.printed (.nested 980)).body = .ok v' ∧
        (Value.nested 980).Rearranges v' := by
  have hv := Value.isDocument_nested 980
  have hdepth : ({} : Api).depth < (Value.nested 980).depth := by
    rw [Value.depth_nested]
    decide
  have hroom : Json.checkPrint ({} : Room).document (.nested 980) = .ok () := by
    refine hv.checkPrint ?_
    rw [Value.depth_nested]
    decide
  obtain ⟨container, hrefused⟩ := payload_body_of_lt hv hdepth
  refine ⟨hv, by rw [Conclusion.emitted, hroom], ?_⟩
  rintro ⟨v', hread, -⟩
  rw [hrefused] at hread
  cases hread

end PullRelay
