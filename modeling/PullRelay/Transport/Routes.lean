import PullRelay.Text.Casing
import PullRelay.Transport.Basic

/-!
# Scripted routes

A transport that answers from a script.  Entries wait in the order in which they
were added; a request is answered by the first waiting entry for its route that
is meant for its page.  An entry is used up by answering, unless it persists.
Requests without an entry are answered with 404.
-/

namespace PullRelay

/-- A scripted answer on the route of a method and a path. -/
structure RouteEntry where
  method : String
  path : String
  status : Int := 200
  payload : Value := .null
  headers : Headers := []
  /-- The page the entry is meant for; `null` is any. -/
  page : Value := .null
  /-- Stays after it has answered. -/
  persist : Bool := false
  /-- Unless empty, the request fails with this text. -/
  failure : String := ""

namespace RouteEntry

def servesPage (e : RouteEntry) (page : Option Int) : Bool :=
  match e.page with
  | .null => true
  | v => match page with
    | some n => v.equalsInt n
    | none => false

/-- The entry is meant for a request of this method, path and page. -/
def serves (method path : String) (page : Option Int) (e : RouteEntry) : Bool :=
  e.method == method && e.path == path && e.servesPage page

def response (e : RouteEntry) : Response :=
  if e.failure.isEmpty then { status := e.status, headers := e.headers, payload := e.payload }
  else
    { status := 0
      error := some (.transport (e.method ++ " " ++ e.path ++ " failed: " ++ e.failure)) }

end RouteEntry

/-- The waiting entries of all routes, and the requests so far. -/
structure Routes where
  entries : List RouteEntry := []
  calls : List Request := []

namespace Routes

def defaultFailure : String := "connection reset"

/-- Let an entry wait after all others. -/
def add (routes : Routes) (e : RouteEntry) : Routes :=
  { routes with entries := routes.entries ++ [{ e with method := Text.upper e.method }] }

/-- The text of a failure that a value gives; whatever counts as false is no failure. -/
def failureText (v : Value) : String := if v.isTruthy then v.asText else ""

/-- Let a failure of the transport wait after all other entries. -/
def addFailure (routes : Routes) (method path message : String) (persist : Bool) : Routes :=
  routes.add { method, path, status := 0, persist, failure := message }

/-- The requests on a route so far. -/
def callsTo (routes : Routes) (method path : String) : List Request :=
  routes.calls.filter fun call ↦ call.method == Text.upper method && call.path == path

/-- The parameters of a request; whatever counts as false is none. -/
def parametersOf (params : Value) : Except Fault (List (String × Value)) :=
  match params with
  | .object fields => .ok fields
  | v => if v.isTruthy then .error (.noMember v.kind.name "get") else .ok []

/-- The page that a request asks for; null and the empty text ask for none. -/
def pageOf (params : Value) : Except Fault (Option Int) := do
  match Value.field? "page" (← parametersOf params) with
  | none | some .null | some (.text "") => return none
  | some v => v.toInt.map some

/-- The first entry that serves, and the entries that wait afterwards. -/
def take? (serves : RouteEntry → Bool) : List RouteEntry → Option (RouteEntry × List RouteEntry)
  | [] => none
  | e :: rest =>
    if serves e then some (e, if e.persist then e :: rest else rest)
    else (take? serves rest).map fun taken ↦ (taken.1, e :: taken.2)

def notFound : Response := { status := 404, payload := .object [("message", .text "Not Found")] }

/-- Answer a request.  It is on record even if its page cannot be read. -/
def transport : Transport Routes := fun r routes ↦
  let r := { r with method := Text.upper r.method }
  let routes := { routes with calls := routes.calls ++ [r] }
  match pageOf r.params with
  | .error f => (.error (.fault f), routes)
  | .ok page =>
    match take? (RouteEntry.serves r.method r.path page) routes.entries with
    | some (e, entries) => (.ok e.response, { routes with entries })
    | none => (.ok notFound, routes)

end Routes

end PullRelay
