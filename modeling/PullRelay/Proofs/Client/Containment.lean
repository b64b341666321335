import PullRelay.Proofs.Client.Accounts
import PullRelay.Proofs.Record.Rows

/-!
# What a call may raise

The failures that leave a call are those of the pipeline, with a few exceptions.  A payload may
hold a value that has no text where one is written, because it is too deep or has a number of too
many digits: the message of a failed response, the name or the status of a changed file, the
parts of a permission.  A number of lines of a changed file may be infinite.  The faults of these
are not among those that a payload is blamed for, and they pass through retries, paginations and
quotas to the caller.

`Client.run_contained_unless_breaks` says so for every chain: a call raises such a fault exactly
if a response was received that breaks it off (`Operation.Breaks`), which is the last one then,
and otherwise it returns or raises a failure of the pipeline.  Every other row that cannot be
converted makes its page malformed.  All texts are made of characters: half a pair of surrogates,
which a payload may hold as well, is left out.
-/

namespace PullRelay

variable {σ ι : Type}

/-! ## Responses -/

/-- A response breaks off the call of an operation, with this fault. -/
inductive Operation.Breaks (op : Operation) (room : Room) (response : Response) : Fault → Prop
  /-- It has failed, and there is no text of its message. -/
  | message {fault} (he : response.error = none) (hs : 404 ≤ response.status)
      (h : response.message.textWithin room.message = .error fault) : Breaks op room response fault
  /-- It has failed, and there is none of its status. -/
  | status {detail} (he : response.error = none) (hs : 404 ≤ response.status)
      (hmessage : response.message.textWithin room.message = .ok detail)
      (h : ¬Numeral.IsReadable response.status) : Breaks op room response .numberTooLong
  /-- It is a page of files, and the first row of it that cannot be converted breaks. -/
  | file {row fault} (hgood : response.error = none ∧ response.status < 404)
      (hshape : op.shape = .files)
      (hreach : Reaches (ChangedFile.read room) (Item.rowsOf response.payload) row)
      (h : ChangedFile.Breaks room row fault) : Breaks op room response fault
  /-- It is a permission without a text. -/
  | permission {row fault} (hgood : response.error = none ∧ response.status < 404)
      (hshape : op.shape = .permission) (hrow : response.payload = .object row)
      (h : PermissionLevel.Breaks room row fault) : Breaks op room response fault

/-- The answer of an exchange breaks off the call. -/
def Exchange.Breaks (x : Exchange) (op : Operation) (room : Room) (fault : Fault) : Prop :=
  ∃ response, x.answer = .ok response ∧ op.Breaks room response fault

namespace Operation

variable {op : Operation} {room : Room} {response : Response} {fault : Fault}

theorem read_error_iff {payload : Value} :
    op.shape.read room payload = .error fault ↔
      op.shape = .files ∧ ∃ row, Reaches (ChangedFile.read room) (Item.rowsOf payload) row ∧
        ChangedFile.read room row = .error fault := by
  cases hs : op.shape with
  | files =>
    simp only [Shape.read, mapM_eq_error_iff, reaches_map_iff, true_and]
    refine exists_congr fun row ↦ and_congr_right fun _ ↦ ?_
    cases ChangedFile.read room row <;> simp [Except.map]
  | _ => simp [Shape.read]

/-- A row that cannot be converted makes its page malformed, unless it breaks. -/
theorem readPage_of_unconvertible (hs : op.shape = .files)
    (hgood : response.error = none ∧ response.status < 404) {row : List (String × Value)}
    (hreach : Reaches (ChangedFile.read room) (Item.rowsOf response.payload) row)
    (hrow : ChangedFile.read room row = .error fault)
    (hbreaks : ¬ChangedFile.Breaks room row fault) :
    op.call.readPage room response = .ok ([], some (op.call.malformed fault)) := by
  have hread : op.call.read room response.payload = .error fault :=
    read_error_iff.mpr ⟨hs, row, hreach, hrow⟩
  have hblame : fault.blamesPayload = true := (Bool.not_eq_false _).mp fun hblame ↦
    hbreaks (ChangedFile.breaks_iff.mpr ⟨hrow, hblame⟩)
  rw [Call.readPage_of_good (Response.failure?_eq_none_iff.mpr hgood)]
  simp [hread, hblame]

/-- A page that cannot be read breaks off the call. -/
theorem breaks_of_readPage (h : op.call.readPage room response = .error fault) :
    op.Breaks room response fault := by
  obtain hf | ⟨hgood, hread, hblame⟩ := Call.readPage_error_iff.mp h
  · obtain ⟨he, hs, hrefusal⟩ := Response.failure?_error_iff.mp hf
    obtain hmessage | ⟨⟨detail, hmessage⟩, htext, rfl⟩ := Response.refusal_error_iff.mp hrefusal
    · exact .message he hs hmessage
    · exact .status he hs hmessage htext
  · obtain ⟨hs, row, hreach, hrow⟩ := read_error_iff.mp hread
    exact .file (Response.failure?_eq_none_iff.mp hgood) hs hreach
      (ChangedFile.breaks_iff.mpr ⟨hrow, hblame⟩)

/-- The failure of a page is the pipeline's, if that of its response is. -/
theorem readPage_isPipeline (hresponse : ∀ e, response.error = some e → e.isPipeline = true)
    {items : List Item} {e : Failure} (h : op.call.readPage room response = .ok (items, some e)) :
    e.isPipeline = true := by
  cases Call.page_of_readPage h with
  | failed hf =>
    obtain herror | ⟨-, -, hrefusal⟩ := Response.failure?_some_iff.mp hf
    · exact hresponse e herror
    · obtain ⟨detail, -, -, rfl⟩ := Response.refusal_ok_iff.mp hrefusal
      rfl
  | malformed => rfl

/-- Only a permission has to be read once it has been staged. -/
theorem conclude_error_iff {items : List Item} :
    op.shape.conclude room items = .error fault ↔
      op.shape = .permission ∧ PermissionLevel.Breaks room (Shape.recordOf items) fault := by
  rw [PermissionLevel.breaks_iff]
  cases op.shape with
  | permission =>
    simp only [Shape.conclude, true_and]
    cases PermissionLevel.read room (Shape.recordOf items) <;> simp [Except.map]
  | _ => simp [Shape.conclude]

/-- The items of a good page of an operation that answers with a permission. -/
theorem items_of_readPage (hs : op.shape = .permission) {items : List Item}
    (h : op.call.readPage room response = .ok (items, none)) :
    (response.error = none ∧ response.status < 404) ∧ items = Item.single response.payload := by
  cases Call.page_of_readPage h with
  | read hgood hread =>
    rw [call_read, hs] at hread
    exact ⟨Response.failure?_eq_none_iff.mp hgood, (Except.ok.inj hread).symm⟩

end Operation

/-! ## Calls of one response -/

/-- Without a link header no page follows. -/
theorem Headers.nextPage_of_unlinked {headers : Headers}
    (h : ∀ f ∈ headers, Text.lower f.1 ≠ "link") : headers.nextPage = .ok none := by
  have hfind : headers.find? (fun f ↦ Text.lower f.1 == "link") = none := by
    simpa [List.find?_eq_none] using h
  have htext : headers.linkText = "" := by rw [Headers.linkText, hfind]
  rw [Headers.nextPage, htext]
  rfl

/-- A response without a link header; its failure, if it has one, is the pipeline's. -/
structure Response.Plain (response : Response) : Prop where
  unlinked : ∀ f ∈ response.headers, Text.lower f.1 ≠ "link"
  contained : ∀ e, response.error = some e → e.isPipeline = true

/-- A call ends and raises nothing but failures of the pipeline. -/
def Ending.Contained {α : Type} : Ending α → Prop
  | .returned _ => True
  | .raised f => f.isPipeline = true
  | .unfinished => False

instance {α : Type} (ending : Ending α) : Decidable ending.Contained :=
  match ending with
  | .returned _ => .isTrue trivial
  | .raised f => inferInstanceAs (Decidable (f.isPipeline = true))
  | .unfinished => .isFalse id

namespace Response.Plain

variable {op : Operation} {room : Room} {response : Response}

theorem nextPage_eq (h : response.Plain) : op.call.nextPage response = .ok none := by
  unfold Call.nextPage
  split
  · exact Headers.nextPage_of_unlinked h.unlinked
  · rfl

theorem outcome_eq (h : response.Plain) {items : List Item} {error : Option Failure}
    (hread : op.call.readPage room response = .ok (items, error)) :
    op.call.outcome room (.ok response) =
      .returned { items, status := response.status, next := none, error } := by
  simp only [Call.outcome, hread, h.nextPage_eq]

/-- A response that breaks off the call lets it raise the fault. -/
theorem answer_of_breaks (h : response.Plain) {fault : Fault}
    (hbreaks : op.Breaks room response fault) :
    Client.answer room op (op.call.outcome room (.ok response)) = .raised (.fault fault) := by
  have hraised (hread : op.call.readPage room response = .error fault) :
      Client.answer room op (op.call.outcome room (.ok response)) = .raised (.fault fault) := by
    simp only [Call.outcome, hread, Client.answer]
  have hrefused (he : response.error = none) (hs : 404 ≤ response.status)
      (hrefusal : response.refusal room.message = .error fault) :
      op.call.readPage room response = .error fault :=
    Call.readPage_error_iff.mpr (.inl (Response.failure?_error_iff.mpr ⟨he, hs, hrefusal⟩))
  cases hbreaks with
  | message he hs hmessage =>
    exact hraised (hrefused he hs (Response.refusal_error_iff.mpr (.inl hmessage)))
  | status he hs hmessage htext =>
    exact hraised (hrefused he hs (Response.refusal_error_iff.mpr
      (.inr ⟨⟨_, hmessage⟩, htext, rfl⟩)))
  | file hgood hs hreach hrow =>
    obtain ⟨hread, hblame⟩ := ChangedFile.breaks_iff.mp hrow
    have hread : op.call.read room response.payload = .error fault :=
      Operation.read_error_iff.mpr ⟨hs, _, hreach, hread⟩
    exact hraised (Call.readPage_error_iff.mpr
      (.inr ⟨Response.failure?_eq_none_iff.mpr hgood, hread, hblame⟩))
  | @permission row _ hgood hs hrow hbreaks =>
    have hread : op.call.readPage room response = .ok ([.row row], none) := by
      rw [Call.readPage_of_good (Response.failure?_eq_none_iff.mpr hgood), Operation.call_read, hs,
        hrow]
      rfl
    have hconclude : op.shape.conclude room [.row row] = .error fault :=
      Operation.conclude_error_iff.mpr ⟨hs, hbreaks⟩
    rw [h.outcome_eq hread]
    simp only [Client.answer, Ending.mapExcept, hconclude]

/-- A call of one response is contained, or broken off. -/
theorem contained_or_breaks (h : response.Plain) (op : Operation) (room : Room) :
    (Client.answer room op (op.call.outcome room (.ok response))).Contained ∨
      ∃ fault, op.Breaks room response fault := by
  rcases hread : op.call.readPage room response with fault | ⟨items, _ | e⟩
  · exact .inr ⟨fault, Operation.breaks_of_readPage hread⟩
  · rw [h.outcome_eq hread]
    simp only [Client.answer, Ending.mapExcept]
    cases hconclude : op.shape.conclude room items with
    | ok answer => exact .inl trivial
    | error fault =>
      obtain ⟨hs, hbreaks⟩ := Operation.conclude_error_iff.mp hconclude
      obtain ⟨hgood, rfl⟩ := Operation.items_of_readPage hs hread
      refine .inr ⟨fault, ?_⟩
      cases hrow : response.payload with
      | object row =>
        rw [hrow] at hbreaks
        exact .permission hgood hs hrow hbreaks
      | _ =>
        rw [hrow] at hbreaks
        exact absurd hbreaks PermissionLevel.not_breaks_nil
  · rw [h.outcome_eq hread]
    exact .inl (Operation.readPage_isPipeline h.contained hread)

end Response.Plain

/-! ## Whole calls -/

/-- The call is contained and no exchange breaks it off; or the last one does, and the call raises
its fault. -/
inductive IsContained (op : Operation) (room : Room) (xs : List Exchange) (answer : Ending Answer) :
    Prop
  | contained (hxs : ∀ x ∈ xs, ∀ fault, ¬x.Breaks op room fault) (h : answer.Contained)
  | broken {earlier x} (hxs : xs = earlier ++ [x])
      (hearlier : ∀ y ∈ earlier, ∀ fault, ¬y.Breaks op room fault)
      (hx : ∃ fault, x.Breaks op room fault)
      (h : ∀ fault, x.Breaks op room fault → answer = .raised (.fault fault))

namespace IsContained

variable {op : Operation} {room : Room} {xs : List Exchange} {answer : Ending Answer}

theorem contained_of_not_breaks (h : IsContained op room xs answer)
    (hxs : ∀ x ∈ xs, ∀ fault, ¬x.Breaks op room fault) : answer.Contained := by
  cases h with
  | contained _ hcontained => exact hcontained
  | broken hlast _ hx _ =>
    obtain ⟨fault, hx⟩ := hx
    exact absurd hx (hxs _ (hlast ▸ List.mem_concat_self) fault)

/-- Only the last exchange breaks off a call. -/
theorem of_breaks (h : IsContained op room xs answer) {earlier later : List Exchange} {x : Exchange}
    {fault : Fault} (hxs : xs = earlier ++ x :: later) (hx : x.Breaks op room fault) :
    later = [] ∧ (∀ y ∈ earlier, ∀ fault, ¬y.Breaks op room fault) ∧
      answer = .raised (.fault fault) := by
  cases h with
  | contained hnone _ => exact absurd hx (hnone x (by simp [hxs]) fault)
  | @broken before y hlast hbefore _ hraised =>
    rcases List.eq_nil_or_concat later with rfl | ⟨rest, z, rfl⟩
    · obtain ⟨rfl, hxy⟩ := List.append_inj' (hlast.symm.trans hxs) rfl
      obtain rfl := List.head_eq_of_cons_eq hxy
      exact ⟨rfl, hbefore, hraised fault hx⟩
    · have hall := hlast.symm.trans hxs
      rw [List.concat_eq_append, ← List.cons_append, ← List.append_assoc] at hall
      obtain ⟨rfl, -⟩ := List.append_inj' hall rfl
      exact absurd hx (hbefore x (by simp) fault)

end IsContained

/-- The account of a call: nothing more is asked for, and failures that may be tried again are the
pipeline's. -/
structure Containment (op : Operation) (room : Room) (xs : List Exchange)
    (outcome : Ending (Delivery Item)) : Prop where
  single : ∀ d, outcome = .returned d → d.next = none
  failed : ∀ d e, outcome = .returned d → d.error = some e → e.isPipeline = true
  told : IsContained op room xs (Client.answer room op outcome)

namespace Containment

variable {op : Operation} {room : Room}

/-- A failure to try again comes without an exchange that breaks off the call. -/
theorem not_breaks {xs : List Exchange} {d : Delivery Item} {e : Failure}
    (h : Containment op room xs (.returned d)) (he : d.error = some e) :
    ∀ x ∈ xs, ∀ fault, ¬x.Breaks op room fault := by
  intro x hx fault hbreaks
  obtain ⟨earlier, later, hxs⟩ := List.append_of_mem hx
  obtain ⟨-, -, hraised⟩ := h.told.of_breaks hxs hbreaks
  simp only [Client.answer, he, Ending.raised.injEq] at hraised
  have hpipeline := h.failed d e rfl he
  rw [hraised] at hpipeline
  cases hpipeline

theorem closed : Account.Closed (Containment op room) where
  single h := h.single _ rfl
  exhausted := by
    rintro xs d e h he errors
    refine ⟨?_, ?_, .contained (h.not_breaks he) rfl⟩
    · rintro _ ⟨⟩
      exact h.single d rfl
    · rintro _ _ ⟨⟩ ⟨⟩
      rfl
  again := by
    rintro xs ys d e outcome h he rest
    refine ⟨rest.single, rest.failed, ?_⟩
    cases rest.told with
    | contained hys hcontained =>
      refine .contained (fun x hx ↦ ?_) hcontained
      exact (List.mem_append.mp hx).elim (h.not_breaks he x) (hys x)
    | broken hys hearlier hx hraised =>
      refine .broken (by rw [hys, List.append_assoc]) (fun y hy ↦ ?_) hx hraised
      exact (List.mem_append.mp hy).elim (h.not_breaks he y) (hearlier y)

/-- A unit of work is contained or broken off by its response, if that is plain. -/
theorem of_exchange (c : Client σ)
    (ht : ∀ r m, ∃ response, (c.transport r m).1 = .ok response ∧ response.Plain) (page : Int)
    (m : σ) : Containment op room [c.exchange op.call page m]
      (op.call.outcome room (c.exchange op.call page m).answer) := by
  obtain ⟨response, hanswer, hplain⟩ := ht (op.call.request c.perPage page) m
  change (c.exchange op.call page m).answer = _ at hanswer
  rw [hanswer]
  refine ⟨fun d hd ↦ ?_, fun d e hd he ↦ ?_, ?_⟩
  · obtain ⟨_, ⟨⟩, -, hnext⟩ := Call.outcome_eq_returned hd
    rw [hplain.nextPage_eq] at hnext
    exact (Except.ok.inj hnext).symm
  · obtain ⟨_, ⟨⟩, hread, -⟩ := Call.outcome_eq_returned hd
    rw [he] at hread
    exact Operation.readPage_isPipeline hplain.contained hread
  · have hexchange {fault} : (c.exchange op.call page m).Breaks op room fault ↔
        op.Breaks room response fault := by
      simp [Exchange.Breaks, hanswer]
    by_cases hbreaks : ∃ fault, op.Breaks room response fault
    · refine @IsContained.broken op room _ _ [] _ rfl (by simp) ?_ fun fault hfault ↦ ?_
      · exact hbreaks.imp fun _ ↦ hexchange.mpr
      · exact hplain.answer_of_breaks (hexchange.mp hfault)
    · refine .contained ?_ ((hplain.contained_or_breaks op room).resolve_right hbreaks)
      intro x hx fault hfault
      obtain rfl := List.mem_singleton.mp hx
      exact hbreaks ⟨fault, hexchange.mp hfault⟩

end Containment

/-- A call over responses without a link header raises the fault of a response that breaks it
off, which is the last one on its route and the only one of that kind; if none does, the call
returns or raises a failure of the pipeline.  A row that cannot be converted and does not break
makes its page malformed. -/
theorem Client.run_contained_unless_breaks {c : Client σ}
    (ht : ∀ r m, ∃ response, (c.transport r m).1 = .ok response ∧ response.Plain)
    {op : Operation}
    (hq : ∀ q, Layer.quota q ∈ c.chain →
      q.fetch.Over c.transport (·.isOn op.method op.path = false) ∧
      ∀ w f, (q.fetch w).1 = .error f → f.isPipeline = true)
    (fuel : Nat) (w : World σ) :
    (∃ events xs, (c.run fuel op w).2 = w.after c.transport events ∧
      c.transport.exchangesOn op.method op.path w.machine events = xs ∧
      (∀ earlier x later fault, xs = earlier ++ x :: later → x.Breaks op c.room fault →
        later = [] ∧ (∀ y ∈ earlier, ∀ fault, ¬y.Breaks op c.room fault) ∧
          (c.run fuel op w).1 = .raised (.fault fault)) ∧
      ((∀ x ∈ xs, ∀ fault, ¬x.Breaks op c.room fault) → (c.run fuel op w).1.Contained)) ∧
    ∀ response row fault, op.shape = .files → response.error = none ∧ response.status < 404 →
      Reaches (ChangedFile.read c.room) (Item.rowsOf response.payload) row →
      ChangedFile.read c.room row = .error fault → ¬ChangedFile.Breaks c.room row fault →
      op.call.readPage c.room response = .ok ([], some (op.call.malformed fault)) := by
  refine ⟨?_, fun response row fault hs hgood hreach hrow hbreaks ↦
    Operation.readPage_of_unconvertible hs hgood hreach hrow hbreaks⟩
  have hkeeps (q) (hmem : Layer.quota q ∈ c.chain) :
      q.Keeps (Account.runs (Containment op c.room) c.transport op.method op.path) := by
    obtain ⟨hover, hpipeline⟩ := hq q hmem
    refine Account.keeps hover fun w f hf hforeign ↦ ?_
    simp [hpipeline w f hf] at hforeign
  obtain ⟨events, outcome, hw, h, hanswer⟩ :=
    Client.run_account Containment.closed hkeeps (Containment.of_exchange c ht) fuel w
  rw [hanswer]
  exact ⟨events, _, hw, rfl, fun _ _ _ _ ↦ h.told.of_breaks, h.told.contained_of_not_breaks⟩

/-- A server that reports one file with an infinite number of added lines. -/
def Transport.infinite : Transport Unit := fun _ _ ↦
  (.ok { status := 200, payload := .list [.object [("additions", .real (.infinite false))]] }, ())

/-- A client of it with a chain of one layer of each kind. -/
def Client.infinite : Client Unit where
  transport := .infinite
  chain := [.quota ⟨QuotaSnapshot.fetch .infinite QuotaSnapshot.coreCategory, 100⟩,
    .retry (.ofAttempts 3 .nan Failure.isRetryable), .pagination (.atMost 100)]

/-- The files of the first pull request. -/
def Operation.firstFiles : Operation := .pullRequestFiles "o" "r" (.int 1)

theorem Transport.plain_infinite (r : Request) (m : Unit) :
    ∃ response, (Transport.infinite r m).1 = .ok response ∧ response.Plain :=
  ⟨_, rfl, by simp, by simp⟩

theorem Client.not_contained_infinite :
    ¬(Client.infinite.run 0 .firstFiles { machine := () }).1.Contained := by decide +kernel

/-- A page of the files breaks off the call. -/
theorem Client.infinite_contained_unless_breaks :
    ∃ events xs, (Client.infinite.run 0 .firstFiles { machine := () }).2 =
        World.after .infinite { machine := () } events ∧
      Transport.exchangesOn .infinite "GET" "/repos/o/r/pulls/1/files" () events = xs ∧
      (∀ earlier x later fault, xs = earlier ++ x :: later →
        x.Breaks .firstFiles Client.infinite.room fault →
          later = [] ∧ (∀ y ∈ earlier, ∀ fault, ¬y.Breaks .firstFiles Client.infinite.room fault) ∧
            (Client.infinite.run 0 .firstFiles { machine := () }).1 = .raised (.fault fault)) ∧
      ∃ x ∈ xs, ∃ fault, x.Breaks .firstFiles Client.infinite.room fault := by
  have hpath : Operation.firstFiles.path = "/repos/o/r/pulls/1/files" := by decide +kernel
  have hq (q) (hmem : Layer.quota q ∈ Client.infinite.chain) :
      q.fetch.Over .infinite
          (·.isOn Operation.firstFiles.method Operation.firstFiles.path = false) ∧
        ∀ w f, (q.fetch w).1 = .error f → f.isPipeline = true := by
    simp only [infinite, List.mem_cons, Layer.quota.injEq, reduceCtorEq, List.not_mem_nil,
      or_false] at hmem
    subst hmem
    exact ⟨QuotaSnapshot.fetch_over_route _ _ _, fun w f hf ↦
      QuotaSnapshot.fetch_isPipeline ⟨_, rfl⟩ hf⟩
  obtain ⟨⟨events, xs, hw, hxs, hbreaks, hcontained⟩, -⟩ := Client.run_contained_unless_breaks
    (c := Client.infinite) Transport.plain_infinite hq 0 { machine := () }
  rw [← hpath]
  refine ⟨events, xs, hw, hxs, hbreaks, Classical.byContradiction fun hnone ↦ ?_⟩
  exact not_contained_infinite (hcontained fun x hx fault h ↦ hnone ⟨x, hx, fault, h⟩)

/-- The fault of an infinite number leaves a call whose responses are all plain. -/
theorem Client.infinite_not_contained :
    (∀ r m, ∃ response, (Client.infinite.transport r m).1 = .ok response ∧ response.Plain) ∧
      ¬(Client.infinite.run 0 .firstFiles { machine := () }).1.Contained :=
  ⟨Transport.plain_infinite, Client.not_contained_infinite⟩

end PullRelay
