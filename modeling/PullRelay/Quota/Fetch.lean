import PullRelay.Quota.Watch
import PullRelay.Transport.Basic

/-!
# Asking the server for the quota

One request; every way in which it does not yield a snapshot is a failed probe.
-/

namespace PullRelay

namespace QuotaSnapshot

def path : String := "/rate_limit"

/-- The category of ordinary requests. -/
def coreCategory : String := "core"

def ofResponse (category : String) (response : Response) : Except Failure QuotaSnapshot :=
  match response.error with
  | some e => .error (.probe e.message)
  | none =>
    if 400 ≤ response.status then
      .error (.probe
        ("rate limit endpoint responded with " ++ toString response.status ++ " status"))
    else
      match (response.payload.fields?.bind (Value.field? "resources")).bind Value.fields? with
      | none => .error (.probe "rate limit resources not reported")
      | some resources =>
        match (Value.field? category resources).bind Value.fields? with
        | none => .error (.probe ("rate limit category not reported: " ++ category))
        | some row =>
          match ofRow row with
          | .ok snapshot => .ok snapshot
          | .error f => .error (.probe ("malformed rate limit payload: " ++ f.message))

/-- Ask for the quota of a category. -/
def fetch {σ : Type} (t : Transport σ) (category : String) : Outside σ QuotaSnapshot := fun w ↦
  match t.request { method := "GET", path } w with
  | (.ok response, w') => (ofResponse category response, w')
  | (.error e, w') => (.error e, w')

end QuotaSnapshot

end PullRelay
