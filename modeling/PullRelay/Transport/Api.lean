import PullRelay.Json.Reader
import PullRelay.Settings
import PullRelay.Text.Utf8
import PullRelay.Transport.Basic
import PullRelay.Transport.Session

/-!
# Requests over the network

An `Api` turns a request into what is sent to a server, and the reply into a
response.  A connection that fails is a response with a transport failure; a body
is taken as JSON if it is a document, and as text otherwise.
-/

namespace PullRelay

/-- A server, and what requests to it carry. -/
structure Api where
  url : String := "https://api.github.com"
  token : Token := {}
  timeout : Value := .real (.ofRatio false 15 1)
  /-- How deep the containers of a body may stand inside one another. -/
  depth : Nat := Json.depthLimit

namespace Api

/-- The address that paths are appended to: no slash stands at its end. -/
def baseUrl (a : Api) : String := Text.trimEnd (· == '/') a.url

/-- The headers of every request; a token that is not empty signs it. -/
def headers (a : Api) : List (String × String) :=
  [("Accept", "application/vnd.github+json"), ("X-GitHub-Api-Version", "2022-11-28")]
    ++ match a.token.secret? with
      | some secret => if secret.isEmpty then [] else [("Authorization", "Bearer " ++ secret)]
      | none => []

def outgoing (a : Api) (r : Request) : Sent where
  method := r.method
  url := a.baseUrl ++ r.path
  headers := a.headers
  params := r.params
  body := r.body
  timeout := a.timeout

/-- The payload of a body: nothing if it is empty, the value of a document, or
else the text itself.  A document that is nested too deeply is a fault.  Bodies are
taken to be UTF-8: other encodings, byte order marks and what a header says about the
character set are left out. -/
def payload (a : Api) (body : List UInt8) : Except Fault Value :=
  if body.isEmpty then .ok .null
  else
    let text := String.ofList (Text.Utf8.decode body)
    match Json.readWithin a.depth text with
    | .ok v => .ok v
    | .error .malformed => .ok (.text text)
    | .error (.tooDeep container) => .error (.nestedTooDeeply container)

/-- The response to a request for which the connection failed. -/
def disconnected (r : Request) (text : String) : Response where
  status := 0
  error := some (.transport (r.method ++ " " ++ r.path ++ " failed: " ++ text))

/-- Nothing in the payload comes from an empty body. -/
@[simp] theorem payload_nil (a : Api) : a.payload [] = .ok .null := rfl

def transport {σ : Type} (a : Api) (session : Session σ) : Transport σ := fun r s ↦
  match session (a.outgoing r) s with
  | (.answered status headers body, s) =>
    (((a.payload body).mapError .fault).map fun payload ↦ { status, headers, payload }, s)
  | (.disconnected text, s) => (.ok (disconnected r text), s)
  | (.crashed failure, s) => (.error failure, s)

end Api

/-- The transport of the settings that goes over the network. -/
def Settings.networkTransport : String := "api"

/-- The server of the settings, unless requests do not go over the network. -/
def Settings.api? (s : Settings) : Option Api :=
  if s.transport = networkTransport then
    some { url := s.apiUrl, token := s.token, timeout := .real s.timeout }
  else none

end PullRelay
