import PullRelay.Pipeline.Action

/-!
# Transports

A transport answers a request from the state of some machine.  Failures of the
server and of the network are responses; what is raised comes from elsewhere.
-/

namespace PullRelay

/-- Answers one request, and changes the machine that does so. -/
abbrev Transport (σ : Type) := Request → σ → Except Failure Response × σ

/-- Send a request, on record. -/
def Transport.request {σ : Type} (t : Transport σ) (r : Request) : Outside σ Response := fun w ↦
  let answer := t r w.machine
  (answer.1, { machine := answer.2, trace := w.trace ++ [.requested r] })

/-- A request leaves the machine as the transport does. -/
@[simp] theorem Transport.machine_request {σ : Type} (t : Transport σ) (r : Request)
    (w : World σ) : (t.request r w).2.machine = (t r w.machine).2 := rfl

/-- A request adds itself to the trace, and nothing else. -/
@[simp] theorem Transport.trace_request {σ : Type} (t : Transport σ) (r : Request) (w : World σ) :
    (t.request r w).2.trace = w.trace ++ [.requested r] := rfl

end PullRelay
