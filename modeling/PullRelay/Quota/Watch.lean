import PullRelay.Pipeline.Action

/-!
# Watching the quota

A `QuotaWatch` asks for the quota once after the work it surrounds, however that
work ended, and warns when too little is left.  A pipeline failure of the probe
is logged; any other failure of it takes the place of the ending.
-/

namespace PullRelay

/-- A quota to ask for, and the number of requests that should remain. -/
structure QuotaWatch (σ : Type) where
  fetch : Outside σ QuotaSnapshot
  threshold : Int

namespace QuotaWatch

variable {σ ι : Type}

def ofValue (fetch : Outside σ QuotaSnapshot) (threshold : Value) : Except Fault (QuotaWatch σ) :=
  threshold.toInt.map fun n ↦ ⟨fetch, n⟩

/-- Ask for the quota, and log what is to be said about it. -/
def check (q : QuotaWatch σ) : Outside σ (Option QuotaSnapshot) := fun w ↦
  match q.fetch w with
  | (.ok snapshot, w') =>
    if snapshot.remaining < q.threshold then
      (.ok (some snapshot), w'.record (.logged (.quotaLow snapshot)))
    else (.ok (some snapshot), w')
  | (.error e, w') =>
    if e.isPipeline then (.ok none, w'.record (.logged (.probeFailed e.message)))
    else (.error e, w')

def around (q : QuotaWatch σ) (inner : Work σ ι) : Work σ ι := fun page ↦
  (inner page).andFinally q.check

end QuotaWatch

end PullRelay
