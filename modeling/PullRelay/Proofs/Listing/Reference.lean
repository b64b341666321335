import PullRelay.Proofs.Client.Standard

/-!
# Lists, page by page

What a standard client does to read a list, without layers, buffers and savepoints:
an attempt asks for the first page and then for each page that the last one named
(`Listing.Attempt`), attempts follow one another while their failure is retryable
(`Listing.Attempts`), and a probe of the quota ends the call (`Listing.Run`).  The
list is put together from the rows of the pages as they are read; a failed attempt
has none.

The rest of the file compares one page: what a unit of work sends and what it makes
of a response are the request and the page of the reference
(`Operation.request_eq`, `Operation.page_of_result`).
-/

namespace PullRelay

variable {σ : Type}

/-- One list after another. -/
def Answer.append : Answer → Answer → Answer
  | .rows xs, .rows ys => .rows (xs ++ ys)
  | .files xs, .files ys => .files (xs ++ ys)
  | a, _ => a

namespace Listing

/-- The request for a page. -/
def request (op : Operation) (s : Settings) (page : Int) : Request where
  method := "GET"
  path := op.path
  params := .object
    [("per_page", .text (toString s.perPage)), ("page", .text (toString page))]

/-- The rows of a payload: objects as they are, and files one by one. -/
def rows (room : Room) : Operation → Value → Except Fault Answer
  | .pullRequestFiles .., payload => ((Item.rowsOf payload).mapM (ChangedFile.read room)).map .files
  | _, payload => .ok (.rows (Item.rowsOf payload))

/-- The page that a response is: a failure, or rows and the page that follows. -/
def page (op : Operation) (room : Room) (response : Response) :
    Except Failure (Answer × Option Int) :=
  match response.error with
  | some e => .error e
  | none =>
    if 404 ≤ response.status then
      match response.message.textWithin room.message with
      | .ok detail =>
        if Numeral.IsReadable response.status then .error (.remote response.status detail)
        else .error (.fault .numberTooLong)
      | .error fault => .error (.fault fault)
    else
      match rows room op response.payload with
      | .error fault =>
        .error (.malformed
          ("GET " ++ op.path ++ " returned a malformed payload: " ++ fault.message))
      | .ok rows =>
        match response.headers.nextPage with
        | .ok (some next) => .ok (rows, if next = 0 then none else some next)
        | _ => .ok (rows, none)

/-- Ask for a page. -/
def ask (t : Transport σ) (op : Operation) (s : Settings) (page : Int) (w : World σ) :
    Except Failure (Answer × Option Int) × World σ :=
  ((t.request (request op s page) w).1.bind (Listing.page op s.room),
    (t.request (request op s page) w).2)

/-- An attempt to read a list from a page on, when so many pages have been read. -/
inductive Attempt (t : Transport σ) (op : Operation) (s : Settings) :
    Nat → Int → World σ → Except Failure Answer → World σ → Prop
  | failed {read page w e w'} (h : ask t op s page w = (.error e, w')) :
      Attempt t op s read page w (.error e) w'
  | last {read page w rows w'} (h : ask t op s page w = (.ok (rows, none), w')) :
      Attempt t op s read page w (.ok rows) w'
  | limit {read page w rows next w'} (h : ask t op s page w = (.ok (rows, some next), w'))
      (hm : s.maxPages = some (read + 1)) :
      Attempt t op s read page w (.error (.pageLimit (.int (read + 1 : Nat)))) w'
  | more {read page w rows next w₁ outcome w'}
      (h : ask t op s page w = (.ok (rows, some next), w₁))
      (hm : s.maxPages ≠ some (read + 1)) (rest : Attempt t op s (read + 1) next w₁ outcome w') :
      Attempt t op s read page w (outcome.map rows.append) w'

/-- Attempts one after the other: so many may follow the next one, and the failures so far
are these. -/
inductive Attempts (t : Transport σ) (op : Operation) (s : Settings) :
    Nat → List Failure → World σ → Except Failure Answer → World σ → Prop
  | success {left errors w rows w'} (h : Attempt t op s 0 1 w (.ok rows) w') :
      Attempts t op s left errors w (.ok rows) w'
  | refused {left errors w e w'} (h : Attempt t op s 0 1 w (.error e) w')
      (he : e.isRetryable = false) : Attempts t op s left errors w (.error e) w'
  | exhausted {errors w e w'} (h : Attempt t op s 0 1 w (.error e) w')
      (he : e.isRetryable = true) :
      Attempts t op s 0 errors w (.error (.exhausted (errors ++ [e]))) w'
  | again {left errors w e w₁ outcome w'} (h : Attempt t op s 0 1 w (.error e) w₁)
      (he : e.isRetryable = true)
      (rest : Attempts t op s left (errors ++ [e]) (w₁.record (.slept s.retryDelay)) outcome w') :
      Attempts t op s (left + 1) errors w outcome w'

/-- A whole call: at most `max 1 s.retryAttempts` attempts, and a probe of the quota. -/
inductive Run (t : Transport σ) (op : Operation) (s : Settings) :
    World σ → Except Failure Answer → World σ → Prop
  | intro {w outcome w'}
      (h : Attempts t op s (max 1 s.retryAttempts - 1).toNat [] w outcome w') :
      Run t op s w outcome (w'.after t (s.probing t w'.machine))

/-- How a call with an outcome ends. -/
def ending : Except Failure Answer → Ending Answer
  | .ok answer => .returned answer
  | .error e => .raised e

end Listing

namespace Operation

variable {op : Operation}

/-- The answer to rows one after the other is put together from theirs. -/
theorem answer_append (hop : op.isPaginated = true) (xs ys : List Item) :
    op.shape.answer (xs ++ ys) = (op.shape.answer xs).append (op.shape.answer ys) := by
  cases op with
  | pullRequestFiles | pullRequestReviews | issueComments =>
    simp [shape, Shape.answer, Answer.append, List.filterMap_append]
  | _ => cases hop

/-- A list has been read once it has been staged. -/
theorem conclude_eq_ok (hop : op.isPaginated = true) (room : Room) (items : List Item) :
    op.shape.conclude room items = .ok (op.shape.answer items) := by
  cases op <;> first | rfl | cases hop

/-- Files read one by one are those read and then staged. -/
theorem mapM_file (room : Room) (rows : List (List (String × Value))) :
    rows.mapM (fun row ↦ (ChangedFile.read room row).map Item.file) =
      (rows.mapM (ChangedFile.read room)).map (·.map Item.file) := by
  induction rows with
  | nil => rfl
  | cons row rows ih =>
    rw [List.mapM_cons, List.mapM_cons, ih]
    cases ChangedFile.read room row with
    | error fault => rfl
    | ok file => cases rows.mapM (ChangedFile.read room) <;> rfl

/-- The rows of a payload are the answer to the items that are read from it. -/
theorem rows_eq_map_read (hop : op.isPaginated = true) (room : Room) (payload : Value) :
    Listing.rows room op payload = (op.shape.read room payload).map op.shape.answer := by
  cases op with
  | pullRequestFiles owner repo number =>
    simp only [Listing.rows, shape, Shape.read, mapM_file]
    cases (Item.rowsOf payload).mapM (ChangedFile.read room) with
    | error fault => rfl
    | ok files => simp [Except.map, Shape.answer, List.filterMap_map, Item.file?, Function.comp_def]
  | pullRequestReviews owner repo number | issueComments issue =>
    simp [Listing.rows, shape, Shape.read, Except.map, Shape.answer, List.filterMap_map, Item.row?,
      Function.comp_def]
  | _ => cases hop

/-- The request of a unit of work is that for its page. -/
theorem request_eq (hop : op.isPaginated = true) (s : Settings) {page : Int} (hpage : page ≠ 0) :
    op.call.request (.int s.perPage) page = Listing.request op s page := by
  have hmethod := method_of_isPaginated hop
  have hbody : op.body = .null := by cases op <;> first | rfl | cases hop
  simp only [Call.request, call_method, call_path, call_body, call_paginated, hmethod, hbody, hop,
    Call.pageParams, hpage, if_true, if_false, Listing.request]
  rfl

/-- What a unit of work makes of a response is its page. -/
theorem page_of_result (hop : op.isPaginated = true) {room : Room} {response : Response}
    {r : Result σ Item} (h : op.call.result room response = .ok r) :
    ∃ items, r.apply = Action.stage items ∧
      Listing.page op room response =
        match r.error with
        | some e => .error e
        | none => .ok (op.shape.answer items, r.cursor?) := by
  obtain ⟨items, error, next, hread, hnext, rfl⟩ := Call.result_eq_ok h
  refine ⟨items, rfl, ?_⟩
  have hnext' : response.headers.nextPage = .ok next := by
    simpa [Call.nextPage, hop] using hnext
  cases Call.page_of_readPage hread with
  | failed hf =>
    unfold Listing.page
    obtain he | ⟨he, hstatus, hrefusal⟩ := Response.failure?_some_iff.mp hf
    · rw [he]
    · obtain ⟨detail, hdetail, htext, rfl⟩ := Response.refusal_ok_iff.mp hrefusal
      simp only [he, hstatus, hdetail, htext, if_true]
  | read hgood hpayload =>
    obtain ⟨he, hstatus⟩ := Response.failure?_eq_none_iff.mp hgood
    rw [call_read] at hpayload
    simp only [Listing.page, he, Int.not_le.mpr hstatus, if_false, rows_eq_map_read hop, hpayload,
      hnext', Except.map]
    cases next with
    | none => rfl
    | some n => by_cases hn : n = 0 <;> simp [Result.cursor?, Option.filter, hn]
  | malformed hgood hpayload =>
    obtain ⟨he, hstatus⟩ := Response.failure?_eq_none_iff.mp hgood
    rw [call_read] at hpayload
    simp only [Listing.page, he, Int.not_le.mpr hstatus, if_false, rows_eq_map_read hop, hpayload,
      Except.map, Call.malformed, call_method, call_path, method_of_isPaginated hop]
    rfl

end Operation

end PullRelay
