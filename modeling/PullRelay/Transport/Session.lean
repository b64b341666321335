import PullRelay.Exchange

/-!
# Sessions

A session is the network as a transport sees it: it takes a request with its full
address and its headers, and gives a reply or breaks off.  `Replies` is a session
that plays replies one after the other and keeps what it was sent.
-/

namespace PullRelay

/-- A request on its way to the server. -/
structure Sent where
  method : String
  url : String
  headers : List (String × String)
  params : Value
  body : Value
  timeout : Value

/-- What comes back. -/
inductive Reply where
  | answered (status : Int) (headers : Headers) (body : List UInt8)
  /-- The connection failed; no response came. -/
  | disconnected (text : String)
  /-- Something else went wrong on the way. -/
  | crashed (failure : Failure)

/-- Replies to what is sent, and changes its own state. -/
abbrev Session (σ : Type) := Sent → σ → Reply × σ

/-- Replies that wait, and what was sent so far. -/
structure Replies where
  waiting : List Reply
  sent : List Sent := []

namespace Replies

def unexpected : Reply := .crashed (.foreign .runtime "no reply is left")

def session : Session Replies := fun request r ↦
  (r.waiting.head?.getD unexpected, { waiting := r.waiting.tail, sent := r.sent ++ [request] })

/-- Whatever is sent, the same replies are left. -/
@[simp] theorem waiting_session (request : Sent) (r : Replies) :
    (session request r).2.waiting = r.waiting.tail := rfl

/-- What is sent is kept in order. -/
@[simp] theorem sent_session (request : Sent) (r : Replies) :
    (session request r).2.sent = r.sent ++ [request] := rfl

end Replies

end PullRelay
