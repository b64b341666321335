import PullRelay.Proofs.Listing.Reference

/-!
# Paginations as attempts

A pagination of units of work is an attempt of the reference, in both directions:
one that ends is an attempt (`Listing.attempt_of_follows`), and an attempt is one
that ends if enough pages may be read (`Listing.follows_of_attempt`).  The invariant
is `Listing.Comes`: the buffer holds what was staged when the loop was entered and,
after a success, the rows of its pages.
-/

namespace PullRelay

variable {σ : Type}

/-! ## Units of work -/

theorem Result.ne_zero_of_cursor? {r : Result σ Item} {next : Int} (h : r.cursor? = some next) :
    next ≠ 0 := by
  simpa using (Option.filter_eq_some_iff.mp h).2

namespace Listing

/-- The transport raises nothing, and neither does a unit of work, whatever is answered. -/
def Answers (t : Transport σ) (op : Operation) (room : Room) : Prop :=
  ∀ r m, ∃ response, (t r m).1 = .ok response ∧
    (r.path = op.path → ∃ result : Result σ Item, op.call.result room response = .ok result)

variable {t : Transport σ} {op : Operation} {s : Settings}

/-- A unit of work asks for its page. -/
theorem unit_eq_ask (hop : op.isPaginated = true) (ht : Answers t op s.room) {page : Int}
    (hpage : page ≠ 0) (st : State σ Item) :
    ∃ r items, (Client.unwatched t s).unit op.call page st =
        (.returned r, { st with world := (ask t op s page st.world).2 }) ∧
      r.apply = Action.stage items ∧
      (ask t op s page st.world).1 =
        match r.error with
        | some e => .error e
        | none => .ok (op.shape.answer items, r.cursor?) := by
  have hrequest : op.call.request (Client.unwatched t s).perPage page = request op s page :=
    op.request_eq hop s hpage
  obtain ⟨response, hresponse, hreadable⟩ := ht (request op s page) st.world.machine
  obtain ⟨r, hresult⟩ := hreadable rfl
  obtain ⟨items, happly, hpage⟩ := op.page_of_result hop hresult
  refine ⟨r, items, ?_, happly, ?_⟩
  · rw [Client.unit_apply, hrequest]
    change (op.call.ending s.room (t (request op s page) st.world.machine).1, _) = _
    rw [hresponse, Call.ending, hresult]
    rfl
  · refine Eq.trans ?_ hpage
    change (t (request op s page) st.world.machine).1.bind _ = _
    rw [hresponse]
    rfl

/-- Once a unit of work has returned and its items are staged, its page has been asked for. -/
theorem ask_of_applied (hop : op.isPaginated = true) (ht : Answers t op s.room) {page : Int}
    (hpage : page ≠ 0) {st st₁ st₂ : State σ Item} {r : Result σ Item}
    (h : (Client.unwatched t s).unit op.call page st = (.returned r, st₁))
    (ha : r.apply st₁ = (.returned (), st₂)) :
    ∃ items, st₂ = ⟨(ask t op s page st.world).2, st.staged ++ items⟩ ∧
      (ask t op s page st.world).1 =
        match r.error with
        | some e => .error e
        | none => .ok (op.shape.answer items, r.cursor?) := by
  obtain ⟨r', items, hunit, happly, hask⟩ := unit_eq_ask (s := s) hop ht hpage st
  rw [hunit] at h
  cases h
  rw [happly] at ha
  cases ha
  exact ⟨items, rfl, hask⟩

/-- If a page fails, so does its unit of work. -/
theorem unit_of_ask_error (hop : op.isPaginated = true) (ht : Answers t op s.room) {page : Int}
    (hpage : page ≠ 0) {w w' : World σ} {e : Failure} (h : ask t op s page w = (.error e, w'))
    (staged : List Item) :
    ∃ r items, (Client.unwatched t s).unit op.call page ⟨w, staged⟩ =
        (.returned r, ⟨w', staged⟩) ∧
      r.apply ⟨w', staged⟩ = (.returned (), ⟨w', staged ++ items⟩) ∧ r.error = some e := by
  obtain ⟨r, items, hunit, happly, hask⟩ := unit_eq_ask (s := s) hop ht hpage ⟨w, staged⟩
  rw [h] at hunit hask
  refine ⟨r, items, hunit, by rw [happly]; rfl, ?_⟩
  cases he : r.error with
  | none => simp [he] at hask
  | some e' => simpa [he, eq_comm] using hask

/-- The unit of work of a good page stages its rows, and hands on the page that follows. -/
theorem unit_of_ask_ok (hop : op.isPaginated = true) (ht : Answers t op s.room) {page : Int}
    (hpage : page ≠ 0) {w w' : World σ} {rows : Answer} {next : Option Int}
    (h : ask t op s page w = (.ok (rows, next), w')) (staged : List Item) :
    ∃ r items, (Client.unwatched t s).unit op.call page ⟨w, staged⟩ =
        (.returned r, ⟨w', staged⟩) ∧
      r.apply ⟨w', staged⟩ = (.returned (), ⟨w', staged ++ items⟩) ∧ r.error = none ∧
      rows = op.shape.answer items ∧ r.cursor? = next := by
  obtain ⟨r, items, hunit, happly, hask⟩ := unit_eq_ask (s := s) hop ht hpage ⟨w, staged⟩
  rw [h] at hunit hask
  cases he : r.error with
  | some e => simp [he] at hask
  | none =>
    rw [he] at hask
    obtain ⟨hrows, hnext⟩ := Prod.mk.inj (Except.ok.inj hask)
    exact ⟨r, items, hunit, by rw [happly]; rfl, he, hrows, hnext.symm⟩

/-- No page is followed by page zero. -/
theorem next_ne_zero (hop : op.isPaginated = true) (ht : Answers t op s.room) {page next : Int}
    (hpage : page ≠ 0) {w w' : World σ} {rows : Answer}
    (h : ask t op s page w = (.ok (rows, some next), w')) : next ≠ 0 := by
  obtain ⟨r, _, -, -, -, -, hn⟩ := unit_of_ask_ok hop ht hpage h []
  exact Result.ne_zero_of_cursor? hn

/-- What a loop over pages or attempts has come to, when its run has left these items in
the buffer: the items staged before with those of the list after them, or a failure. -/
inductive Comes (op : Operation) (staged : List Item) :
    Ending (Result σ Item) → List Item → Except Failure Answer → Prop
  | success {r items} (he : r.error = none) (ha : r.apply = pure ()) :
      Comes op staged (.returned r) (staged ++ items) (.ok (op.shape.answer items))
  | failure {r e items} (he : r.error = some e) : Comes op staged (.returned r) items (.error e)

/-- It has returned, with an error exactly if it failed. -/
theorem Comes.exists_result {staged items : List Item} {ending : Ending (Result σ Item)}
    {outcome : Except Failure Answer} (h : Comes op staged ending items outcome) :
    ∃ r, ending = .returned r ∧
      r.error = match outcome with
        | .ok _ => none
        | .error e => some e := by
  cases h with
  | success he _ => exact ⟨_, rfl, he⟩
  | failure he => exact ⟨_, rfl, he⟩

/-- If it has returned with an error, that is its outcome. -/
theorem Comes.eq_error {staged items : List Item} {r : Result σ Item} {e : Failure}
    {outcome : Except Failure Answer} (h : Comes op staged (.returned r) items outcome)
    (he : r.error = some e) : outcome = .error e := by
  cases h with
  | success hnone _ => simp [he] at hnone
  | failure hsome => rw [Option.some.inj (he.symm.trans hsome)]

/-- The rows of a page stand before those of the pages that follow. -/
theorem Comes.append (hop : op.isPaginated = true) {staged items staged' : List Item}
    {ending : Ending (Result σ Item)} {outcome : Except Failure Answer}
    (h : Comes op (staged ++ items) ending staged' outcome) :
    Comes op staged ending staged' (outcome.map (op.shape.answer items).append) := by
  cases h with
  | success he ha =>
    rw [List.append_assoc, Except.map, ← op.answer_append hop]
    exact .success he ha
  | failure he => exact .failure he

end Listing

/-! ## Pages -/

namespace Settings

/-- What the pagination of settings does when no further page may be read. -/
def atBound (s : Settings) (r : Result σ Item) : Action σ Item (Result σ Item) :=
  match s.maxPages with
  | some n => pure (r.settled.failing (.pageLimit (.int n)))
  | none => Action.giveUp

/-- The pages that may be read after the first one. -/
def furtherPages (s : Settings) (fuel : Nat) : Nat :=
  match s.maxPages with
  | some n => n - 1
  | none => fuel

theorem pagination_around (s : Settings) (fuel : Nat) (inner : Work σ Item) (page : Int) :
    s.pagination.around fuel inner page =
      Pagination.follow inner s.atBound (s.furtherPages fuel) firstPage := by
  unfold Pagination.around Settings.pagination maxPagesValue furtherPages
  have hbound : (s.atBound : Result σ Item → _) = fun r ↦ match s.maxPages with
    | some n => pure (r.settled.failing (.pageLimit (.int n)))
    | none => Action.giveUp := rfl
  rw [hbound]
  cases s.maxPages <;> rfl

/-- When so many pages have been read, so many may be read after the next one. -/
def Allows (s : Settings) (read further : Nat) : Prop :=
  ∀ n, s.maxPages = some n → n = read + 1 + further

theorem allows_furtherPages {s : Settings} (hs : s.maxPages ≠ some 0) (fuel : Nat) :
    s.Allows 0 (s.furtherPages fuel) := by
  intro n hn
  have hpos : n ≠ 0 := by
    rintro rfl
    exact hs hn
  simp only [furtherPages, hn]
  omega

namespace Allows

variable {s : Settings} {read further : Nat}

/-- No page may follow the last one that settings allow. -/
theorem eq_zero (h : s.Allows read further) (hm : s.maxPages = some (read + 1)) : further = 0 := by
  have hsum := h _ hm
  omega

/-- If a page may follow the next one, that is not the last one allowed. -/
theorem ne_bound (h : s.Allows read (further + 1)) : s.maxPages ≠ some (read + 1) := by
  intro hm
  have hsum := h _ hm
  omega

theorem succ (h : s.Allows read (further + 1)) : s.Allows (read + 1) further := by
  intro n hn
  have hsum := h n hn
  omega

end Allows

end Settings

namespace Listing

variable {t : Transport σ} {op : Operation} {s : Settings}

/-- A pagination that ends is an attempt. -/
theorem attempt_of_follows (hop : op.isPaginated = true) (ht : Answers t op s.room)
    {further read : Nat} {page : Int} {st st' : State σ Item} {ending : Ending (Result σ Item)}
    (h : Pagination.Follows ((Client.unwatched t s).unit op.call) s.atBound further page st
      ending st')
    (hread : s.Allows read further) (hpage : page ≠ 0) (hend : ending ≠ .unfinished) :
    ∃ outcome, Attempt t op s read page st.world outcome st'.world ∧
      Comes op st.staged ending st'.staged outcome := by
  induction h generalizing read with
  | @raised _ _ st _ _ h =>
    obtain ⟨r, items, hunit, -⟩ := unit_eq_ask (s := s) hop ht hpage st
    simp [hunit] at h
  | unfinished _ => exact absurd rfl hend
  | @applyRaised _ _ st _ _ _ _ h ha =>
    obtain ⟨r, items, hunit, happly, -⟩ := unit_eq_ask (s := s) hop ht hpage st
    rw [hunit] at h
    cases h
    simp [happly] at ha
  | applyUnfinished _ _ => exact absurd rfl hend
  | @settled _ _ _ _ _ r h ha stop =>
    obtain ⟨items, rfl, hask⟩ := ask_of_applied hop ht hpage h ha
    cases he : r.error with
    | some e =>
      rw [he] at hask
      exact ⟨_, .failed (Prod.ext hask rfl), .failure he⟩
    | none =>
      rw [he, stop he] at hask
      exact ⟨_, .last (Prod.ext hask rfl), .success he rfl⟩
  | bound h ha he hn hb =>
    obtain ⟨items, rfl, hask⟩ := ask_of_applied hop ht hpage h ha
    rw [he, hn] at hask
    unfold Settings.atBound at hb
    cases hm : s.maxPages with
    | none =>
      rw [hm] at hb
      cases hb
      exact absurd rfl hend
    | some n =>
      rw [hm] at hb
      cases hb
      obtain rfl := hread n hm
      exact ⟨_, .limit (Prod.ext hask rfl) hm, .failure rfl⟩
  | more h ha he hn _ ih =>
    obtain ⟨items, rfl, hask⟩ := ask_of_applied hop ht hpage h ha
    rw [he, hn] at hask
    obtain ⟨outcome, hattempt, hcomes⟩ := ih hread.succ (Result.ne_zero_of_cursor? hn) hend
    exact ⟨_, .more (Prod.ext hask rfl) hread.ne_bound hattempt, hcomes.append hop⟩

/-- An attempt is a pagination that ends, if enough pages may be read. -/
theorem follows_of_attempt (hop : op.isPaginated = true) (ht : Answers t op s.room) {read : Nat}
    {page : Int} {w w' : World σ} {outcome : Except Failure Answer}
    (h : Attempt t op s read page w outcome w') (hpage : page ≠ 0) :
    ∃ enough, ∀ further, s.Allows read further → (s.maxPages = none → enough ≤ further) →
      ∀ staged, ∃ ending st', Pagination.Follows ((Client.unwatched t s).unit op.call) s.atBound
        further page ⟨w, staged⟩ ending st' ∧ st'.world = w' ∧
        Comes op staged ending st'.staged outcome := by
  induction h with
  | failed h =>
    refine ⟨0, fun further _ _ staged ↦ ?_⟩
    obtain ⟨r, items, hunit, happly, he⟩ := unit_of_ask_error hop ht hpage h staged
    exact ⟨_, _, .settled hunit happly (by simp [he]), rfl, .failure he⟩
  | last h =>
    refine ⟨0, fun further _ _ staged ↦ ?_⟩
    obtain ⟨r, items, hunit, happly, he, rfl, hn⟩ := unit_of_ask_ok hop ht hpage h staged
    exact ⟨_, _, .settled hunit happly fun _ ↦ hn, rfl, .success (r := r.settled) he rfl⟩
  | @limit read _ _ _ _ _ h hm =>
    refine ⟨0, fun further hread _ staged ↦ ?_⟩
    obtain ⟨r, items, hunit, happly, he, rfl, hn⟩ := unit_of_ask_ok hop ht hpage h staged
    obtain rfl := hread.eq_zero hm
    have hbound : s.atBound r = pure (r.settled.failing (.pageLimit (.int (read + 1 : Nat)))) := by
      rw [Settings.atBound, hm]
    exact ⟨_, _, .bound hunit happly he hn (by rw [hbound]; rfl), rfl, .failure rfl⟩
  | @more read _ _ _ _ _ _ _ h hm _ ih =>
    obtain ⟨enough, ih⟩ := ih (next_ne_zero hop ht hpage h)
    refine ⟨enough + 1, fun further hread henough staged ↦ ?_⟩
    obtain ⟨r, items, hunit, happly, he, rfl, hn⟩ := unit_of_ask_ok hop ht hpage h staged
    cases further with
    | zero =>
      cases hmax : s.maxPages with
      | none => exact absurd (henough hmax) (by omega)
      | some n => exact absurd (hmax.trans (congrArg some (hread n hmax))) hm
    | succ further =>
      obtain ⟨ending, st', hrest, hw, hcomes⟩ := ih further hread.succ
        (fun hmax ↦ Nat.le_of_succ_le_succ (henough hmax)) (staged ++ items)
      exact ⟨ending, st', .more hunit happly he hn hrest, hw, hcomes.append hop⟩

/-- What the layer of pages comes to is an attempt from the first page on. -/
theorem attempt_of_pages (hop : op.isPaginated = true) (ht : Answers t op s.room)
    (hs : s.maxPages ≠ some 0) {fuel : Nat} {page : Int} {st st' : State σ Item}
    {ending : Ending (Result σ Item)}
    (h : s.pagination.around fuel ((Client.unwatched t s).unit op.call) page st = (ending, st'))
    (hend : ending ≠ .unfinished) :
    ∃ outcome, Attempt t op s 0 1 st.world outcome st'.world ∧
      Comes op st.staged ending st'.staged outcome := by
  rw [Settings.pagination_around] at h
  exact attempt_of_follows hop ht (Pagination.follow_eq_iff.mp h)
    (Settings.allows_furtherPages hs fuel) (by decide) hend

/-- With enough fuel the layer of pages comes to what an attempt does. -/
theorem pages_of_attempt (hop : op.isPaginated = true) (ht : Answers t op s.room)
    (hs : s.maxPages ≠ some 0) {w w' : World σ} {outcome : Except Failure Answer}
    (h : Attempt t op s 0 1 w outcome w') :
    ∃ enough, ∀ fuel, enough ≤ fuel → ∀ page staged, ∃ ending st',
      s.pagination.around fuel ((Client.unwatched t s).unit op.call) page ⟨w, staged⟩ =
        (ending, st') ∧ st'.world = w' ∧ Comes op staged ending st'.staged outcome := by
  obtain ⟨enough, hfollows⟩ := follows_of_attempt hop ht h (by decide)
  refine ⟨enough, fun fuel hfuel page staged ↦ ?_⟩
  have hfurther : s.maxPages = none → enough ≤ s.furtherPages fuel := fun hmax ↦ by
    simpa [Settings.furtherPages, hmax] using hfuel
  obtain ⟨ending, st', hrun, hw, hcomes⟩ :=
    hfollows _ (Settings.allows_furtherPages hs fuel) hfurther staged
  exact ⟨ending, st', by rw [Settings.pagination_around]; exact hrun.follow_eq, hw, hcomes⟩

end Listing

end PullRelay
