import PullRelay.Client.Operation
import PullRelay.Pipeline.Chain
import PullRelay.Quota.Fetch
import PullRelay.Settings

/-!
# Clients

A client runs calls over a transport, each of them surrounded by the layers of
its chain.  A call has a buffer of its own; what is staged in it at the end is
the answer.  The standard chain watches the quota outermost, retries the whole of
a paginated call, and reads pages innermost.
-/

namespace PullRelay

/-- A transport, the layers around each call, the size of a page, and the room that is
left for texts inside a call. -/
structure Client (σ : Type) where
  transport : Transport σ
  chain : Chain σ
  perPage : Value := .int 100
  room : Room := {}

namespace Client

variable {σ ι : Type}

/-- The unit of work of a call: one request, for one page. -/
def unit (c : Client σ) (call : Call ι) : Work σ ι := fun page ↦ do
  let response ← Action.ofOutside (c.transport.request (call.request c.perPage page))
  match call.result c.room response with
  | .ok result => pure result
  | .error fault => Action.raise (.fault fault)

/-- Run a unit through the chain and stage its items; a failure that is left over
is raised. -/
def action (fuel : Nat) (c : Client σ) (call : Call ι) : Action σ ι Unit := do
  let result ← c.chain.around fuel (c.unit call) noPage
  match result.error with
  | some e => Action.raise e
  | none => result.apply

/-- Run a call with a buffer of its own; it returns what is staged at the end. -/
def execute (fuel : Nat) (c : Client σ) (call : Call ι) (w : World σ) :
    Ending (List ι) × World σ :=
  let final := c.action fuel call { world := w }
  (final.1.map fun _ ↦ final.2.staged, final.2.world)

/-- Do an operation: what is staged in its call makes the answer. -/
def run (fuel : Nat) (c : Client σ) (op : Operation) (w : World σ) : Ending Answer × World σ :=
  let final := c.execute fuel op.call w
  (final.1.mapExcept (op.shape.conclude c.room), final.2)

/-- Ask for the quota of ordinary requests, past the layers. -/
def quota (c : Client σ) : Outside σ QuotaSnapshot :=
  QuotaSnapshot.fetch c.transport QuotaSnapshot.coreCategory

end Client

/-- What a client is built from; values that cannot be used are refused. -/
structure Options where
  retryAttempts : Value := .int 3
  retryDelay : Value := .real (.ofRatio false 2 1)
  rateLimitThreshold : Value := .int 100
  maxPages : Value := .int 100
  perPage : Value := .int 100
  room : Room := {}

/-- The standard chain: quota, retry, pagination. -/
def Chain.standard {σ : Type} (t : Transport σ) (o : Options) : Except Fault (Chain σ) := do
  let watch ←
    QuotaWatch.ofValue (QuotaSnapshot.fetch t QuotaSnapshot.coreCategory) o.rateLimitThreshold
  let budget ← Retry.ofValues o.retryAttempts o.retryDelay Failure.isRetryable
  let pages ← Pagination.ofValue o.maxPages
  return [.quota watch, .retry budget, .pagination pages]

def Client.ofOptions {σ : Type} (t : Transport σ) (o : Options) : Except Fault (Client σ) :=
  (Chain.standard t o).map fun chain ↦
    { transport := t, chain, perPage := o.perPage, room := o.room }

def Settings.options (s : Settings) : Options where
  retryAttempts := .int s.retryAttempts
  retryDelay := .real s.retryDelay
  rateLimitThreshold := .int s.rateLimitThreshold
  maxPages := s.maxPagesValue
  perPage := .int s.perPage
  room := s.room

def Client.ofSettings {σ : Type} (t : Transport σ) (s : Settings) : Except Fault (Client σ) :=
  Client.ofOptions t s.options

/-- A client with the standard chain, from the environment. -/
def Client.ofEnv {σ : Type} (t : Transport σ) (env : Environment) : Except Fault (Client σ) := do
  Client.ofSettings t (← Settings.ofEnv env)

end PullRelay
