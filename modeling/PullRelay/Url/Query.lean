import PullRelay.Text.Pieces
import PullRelay.Url.Percent

/-!
# Queries

The query of an address is a list of parameters between ampersands.  A parameter
without a value is passed over.
-/

namespace PullRelay.Url

open Text

/-- A name or value in a query: a plus is a space, and escapes are resolved. -/
def decodeComponent (cs : List Char) : String :=
  String.ofList (Percent.decode (cs.map fun c ↦ if c = '+' then ' ' else c))

def parameter? (piece : List Char) : Option (String × String) :=
  match splitFirst '=' piece with
  | (name, some (c :: value)) => some (decodeComponent name, decodeComponent (c :: value))
  | _ => none

def parameters (query : List Char) : List (String × String) :=
  (splitAll '&' query).filterMap parameter?

end PullRelay.Url
