import PullRelay.Link
import PullRelay.Pipeline.Action
import PullRelay.Room

/-!
# Calls

A `Call` is one thing asked of the server: a request, and how the payload of its
response is read.  A response comes to a result that stages the items of the
payload, or to one that carries a failure; faults that are no fault of the
payload are raised.

Page numbers and what stands in a path or a parameter are taken to have a text: page
numbers were read from one.
-/

namespace PullRelay

/-- What is asked of the server, and how the answer is read as items. -/
structure Call (ι : Type) where
  method : String
  path : String
  body : Value := .null
  /-- The answer comes in pages. -/
  paginated : Bool := false
  read : Room → Value → Except Fault (List ι)

/-- What a payload says about a failure: its message, or nothing. -/
def Response.message (r : Response) : Value :=
  (r.payload.fields?.bind (Value.field? "message")).getD (.text "")

/-- The failure that a server reports, in a text of the message and of the status. -/
def Response.refusal (room : Nat) (r : Response) : Except Fault Failure := do
  let detail ← r.message.textWithin room
  if Numeral.IsReadable r.status then return .remote r.status detail else throw .numberTooLong

/-- The failure that a response amounts to, if any.  Statuses from 404 on are
failures; the payload may say more, as far as there is room for it. -/
def Response.failure? (room : Nat) (r : Response) : Except Fault (Option Failure) :=
  match r.error with
  | some e => .ok (some e)
  | none =>
    if 404 ≤ r.status then (r.refusal room).map some else .ok none

/-- A response is good without an error and with a status below 404. -/
theorem Response.failure?_eq_none_iff {room : Nat} {r : Response} :
    r.failure? room = .ok none ↔ r.error = none ∧ r.status < 404 := by
  unfold Response.failure?
  cases r.error with
  | some e => simp
  | none =>
    by_cases h : 404 ≤ r.status
    · cases r.refusal room <;> simp [h, Except.map]
    · simp only [h, if_false, true_and, true_iff]
      omega

/-- A failed response whose message and status have a text. -/
theorem Response.failure?_of_text {room : Nat} {r : Response} (he : r.error = none)
    (hstatus : 404 ≤ r.status) {detail : String} (hdetail : r.message.textWithin room = .ok detail)
    (htext : Numeral.IsReadable r.status) :
    r.failure? room = .ok (some (.remote r.status detail)) := by
  rw [failure?, he]
  simp only [hstatus, if_true, refusal, hdetail, htext]
  rfl

/-- A fault that a payload is to blame for: a value that is of the wrong kind or
not allowed.  Numbers that are too large are not among them. -/
def Fault.blamesPayload (f : Fault) : Bool := f.family == .value || f.family == .kind

namespace Call

variable {σ ι : Type}

def pageParams (perPage : Value) (page : Int) : Value :=
  .object (("per_page", .text perPage.asText)
    :: if page = 0 then [] else [("page", .text (toString page))])

def request (call : Call ι) (perPage : Value) (page : Int) : Request where
  method := call.method
  path := call.path
  params := if call.paginated then pageParams perPage page else .null
  body := call.body

@[simp] theorem request_method (call : Call ι) (perPage : Value) (page : Int) :
    (call.request perPage page).method = call.method := rfl

@[simp] theorem request_path (call : Call ι) (perPage : Value) (page : Int) :
    (call.request perPage page).path = call.path := rfl

@[simp] theorem request_body (call : Call ι) (perPage : Value) (page : Int) :
    (call.request perPage page).body = call.body := rfl

/-- The failure of a page whose payload cannot be read. -/
def malformed (call : Call ι) (fault : Fault) : Failure :=
  .malformed (call.method ++ " " ++ call.path ++ " returned a malformed payload: " ++ fault.message)

/-- The items of a response, and its failure if there is one. -/
def readPage (call : Call ι) (room : Room) (response : Response) :
    Except Fault (List ι × Option Failure) := do
  match ← response.failure? room.message with
  | some e => return ([], some e)
  | none =>
    match call.read room response.payload with
    | .ok items => return (items, none)
    | .error fault =>
      if fault.blamesPayload then return ([], some (call.malformed fault)) else throw fault

/-- The items of a failed response are not read. -/
theorem readPage_of_failure {call : Call ι} {room : Room} {response : Response} {e : Failure}
    (h : response.failure? room.message = .ok (some e)) :
    call.readPage room response = .ok ([], some e) := by
  rw [readPage, h]
  rfl

/-- Those of a good one are read, and what is wrong with them may be its failure. -/
theorem readPage_of_good {call : Call ι} {room : Room} {response : Response}
    (h : response.failure? room.message = .ok none) :
    call.readPage room response =
      match call.read room response.payload with
      | .ok items => .ok (items, none)
      | .error fault =>
        if fault.blamesPayload then .ok ([], some (call.malformed fault)) else .error fault := by
  rw [readPage, h]
  rfl

/-- The page that follows; only a call in pages has one. -/
def nextPage (call : Call ι) (response : Response) : Except Fault (Option Int) :=
  if call.paginated then response.headers.nextPage else .ok none

/-- The result that a response comes to. -/
def result (call : Call ι) (room : Room) (response : Response) : Except Fault (Result σ ι) := do
  let page ← call.readPage room response
  let next ← call.nextPage response
  return { apply := Action.stage page.1, status := response.status, next, error := page.2 }

end Call

end PullRelay
