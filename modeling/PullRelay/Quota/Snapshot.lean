import PullRelay.Calendar
import PullRelay.Failure

/-!
# Quota snapshots

How many requests are left of how many, and when the count starts again.
-/

namespace PullRelay

/-- The quota of a category of requests at one moment. -/
structure QuotaSnapshot where
  remaining : Int
  limit : Int
  resetAt : Instant

namespace QuotaSnapshot

def required (row : List (String × Value)) (key : String) : Except Fault Value :=
  match Value.field? key row with
  | some v => .ok v
  | none => .error (.missingField key)

/-- Read a row as the server reports it: three whole numbers, the last of them
seconds since the epoch.  Faults are found in the order of the fields. -/
def ofRow (row : List (String × Value)) : Except Fault QuotaSnapshot := do
  let remaining ← (← required row "remaining").toInt
  let limit ← (← required row "limit").toInt
  let reset ← (← required row "reset").toInt
  let resetAt ← Instant.ofSeconds reset
  return { remaining, limit, resetAt }

def fields (q : QuotaSnapshot) : List (String × Value) :=
  [("remaining", .int q.remaining), ("limit", .int q.limit), ("reset_at", .text q.resetAt.isoZulu)]

end QuotaSnapshot

end PullRelay
