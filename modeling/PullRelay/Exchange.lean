import PullRelay.Failure

/-!
# Requests and responses

One exchange with the server: a request goes out, a response or the failure of
the transport comes back.  Headers keep their order; a header given twice under
one name keeps its place and takes the later value.
-/

namespace PullRelay

/-- A request.  Parameters and body are `null` where there are none. -/
structure Request where
  method : String
  path : String
  params : Value := .null
  body : Value := .null
deriving Inhabited, Repr

/-- Header names and values, in order. -/
abbrev Headers := List (String × Value)

def Headers.ofPairs (pairs : List (String × Value)) : Headers := Value.collectFields pairs

/-- A response.  With an `error` the request produced no response and the status is 0. -/
structure Response where
  status : Int
  headers : Headers := []
  payload : Value := .null
  error : Option Failure := none

end PullRelay
