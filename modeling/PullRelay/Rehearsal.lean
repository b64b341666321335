import PullRelay.Pipeline.Chain
import PullRelay.Quota.Fetch
import PullRelay.Transport.Routes

/-!
# Rehearsals

Scripted units of work and scripted quotas, to try a chain of layers out.  A
script says what each call plays; the trace shows what the layers did.
-/

namespace PullRelay.Rehearsal

/-- What one call of a unit plays. -/
inductive Step where
  | raises (failure : Failure)
  | yields (status : Int) (next : Option Int) (error : Option Failure) (items : List Value)
  /-- Yields a result without anything to stage. -/
  | yieldsNothing (status : Int) (next : Option Int) (error : Option Failure)

/-- The steps of a unit: one after the other, or by page.  A last step repeats. -/
inductive Script where
  | sequence (steps : List Step)
  | pages (pages : List (List Step))

/-- What one probe of a scripted quota plays. -/
inductive Probe where
  | raises (failure : Failure)
  | row (fields : List (String × Value))

/-- How often everything was called so far. -/
structure Machine where
  calls : Nat := 0
  callsByPage : List (Int × Nat) := []
  probes : List (Nat × Nat) := []
  routes : Routes := {}

/-- The entry at a position, or else the last one. -/
def nth? {α : Type} (xs : List α) (n : Nat) : Option α := xs[min n (xs.length - 1)]?

def countOf {κ : Type} [BEq κ] (key : κ) (counts : List (κ × Nat)) : Nat :=
  (counts.lookup key).getD 0

def countUp {κ : Type} [BEq κ] (key : κ) (counts : List (κ × Nat)) : List (κ × Nat) :=
  (key, countOf key counts + 1) :: counts.filter (fun c ↦ !(c.1 == key))

namespace Script

/-- The step that a call for a page plays. -/
def play? (script : Script) (page : Int) (m : Machine) : Option Step :=
  match script with
  | .sequence steps => nth? steps m.calls
  | .pages table =>
    (nth? table ((max page 1).toNat - 1)).bind (nth? · (countOf page m.callsByPage))

def advance (page : Int) (m : Machine) : Machine :=
  { m with calls := m.calls + 1, callsByPage := countUp page m.callsByPage }

def unit (script : Script) : Work Machine Value := fun page s ↦
  let step := script.play? page s.world.machine
  let world := { s.world with machine := advance page s.world.machine }
  let s := { s with world := world.record (.ran page) }
  match step with
  | none => (.returned {}, s)
  | some (.raises failure) => (.raised failure, s)
  | some (.yieldsNothing status next error) => (.returned { status, next, error }, s)
  | some (.yields status next error items) =>
    let apply := do
      Action.record (.applied page)
      Action.stage items
    (.returned { apply, status, next, error }, s)

end Script

/-- The scripted quota with a number of its own. -/
def probe (index : Nat) (script : List Probe) : Outside Machine QuotaSnapshot := fun w ↦
  let n := countOf index w.machine.probes
  let machine := { w.machine with probes := countUp index w.machine.probes }
  let w := { w with machine }.record (.probed (n + 1))
  match nth? script n with
  | some (.raises failure) => (.error failure, w)
  | some (.row fields) => ((QuotaSnapshot.ofRow fields).mapError .fault, w)
  | none => (.error (.probe ""), w)

def transport : Transport Machine := fun r m ↦
  let answer := Routes.transport r m.routes
  (answer.1, { m with routes := answer.2 })

end PullRelay.Rehearsal
