import PullRelay.Exchange
import PullRelay.Log

/-!
# Actions

A unit of work talks to the outside and stages items in a buffer.  What it can
change is a `State`: the machine that answers requests, the trace of what was
done, and the buffer.  An `Action` returns, raises a failure, or is `unfinished`
when it ran out of the fuel given to an unbounded loop; in each case the state it
leaves behind is there.

Talking to the outside alone is an `Outside` computation: it cannot see the
buffer, and it always ends.
-/

namespace PullRelay

/-- What is done on the way, in order. -/
inductive Event where
  /-- A request went out. -/
  | requested (request : Request)
  /-- A scripted unit of work ran for a page. -/
  | ran (page : Int)
  /-- The items of a scripted unit were staged for a page. -/
  | applied (page : Int)
  /-- A pause of so many seconds between two attempts. -/
  | slept (delay : Binary64)
  /-- A scripted quota was asked for the `n`th time. -/
  | probed (n : Nat)
  /-- A recorder was entered with a page. -/
  | entered (name : String) (page : Int)
  /-- A recorder was left with a status. -/
  | left (name : String) (status : Int)
  /-- Something was logged. -/
  | logged (notice : Log.Notice)

/-- The outside: a machine in some state, and the trace so far. -/
structure World (σ : Type) where
  machine : σ
  trace : List Event := []

/-- A computation on the outside. -/
abbrev Outside (σ α : Type) := World σ → Except Failure α × World σ

def World.record {σ : Type} (w : World σ) (e : Event) : World σ :=
  { w with trace := w.trace ++ [e] }

/-- The outside together with the buffer of staged items. -/
structure State (σ ι : Type) where
  world : World σ
  staged : List ι := []

/-- How an action ends. -/
inductive Ending (α : Type) where
  | returned (value : α)
  | raised (failure : Failure)
  | unfinished

def Ending.map {α β : Type} (f : α → β) : Ending α → Ending β
  | .returned a => .returned (f a)
  | .raised e => .raised e
  | .unfinished => .unfinished

/-- Go on with what is returned; a fault of that is raised. -/
def Ending.mapExcept {α β : Type} (f : α → Except Fault β) : Ending α → Ending β
  | .returned a =>
    match f a with
    | .ok b => .returned b
    | .error fault => .raised (.fault fault)
  | .raised e => .raised e
  | .unfinished => .unfinished

@[simp] theorem Ending.map_returned {α β : Type} (f : α → β) (a : α) :
    (Ending.returned a).map f = .returned (f a) := rfl

@[simp] theorem Ending.map_raised {α β : Type} (f : α → β) (e : Failure) :
    (Ending.raised e : Ending α).map f = .raised e := rfl

@[simp] theorem Ending.map_unfinished {α β : Type} (f : α → β) :
    (Ending.unfinished : Ending α).map f = .unfinished := rfl

/-- A computation on a state. -/
def Action (σ ι α : Type) := State σ ι → Ending α × State σ ι

namespace Action

variable {σ ι α β : Type}

instance : Monad (Action σ ι) where
  pure a := fun s ↦ (.returned a, s)
  bind m k := fun s ↦
    match m s with
    | (.returned a, s') => k a s'
    | (.raised f, s') => (.raised f, s')
    | (.unfinished, s') => (.unfinished, s')

@[simp] theorem pure_apply (a : α) (s : State σ ι) :
    (pure a : Action σ ι α) s = (.returned a, s) := rfl

theorem bind_apply (m : Action σ ι α) (k : α → Action σ ι β) (s : State σ ι) :
    (m >>= k) s =
      match m s with
      | (.returned a, s') => k a s'
      | (.raised f, s') => (.raised f, s')
      | (.unfinished, s') => (.unfinished, s') := rfl

instance : LawfulMonad (Action σ ι) := LawfulMonad.mk' _
  (fun m ↦ by
    funext s
    simp only [Functor.map]
    cases h : m s with
    | mk e s' => cases e <;> rfl)
  (fun _ _ ↦ rfl)
  (fun m k l ↦ by
    funext s
    simp only [bind_apply]
    cases h : m s with
    | mk e s' => cases e <;> rfl)

def raise (f : Failure) : Action σ ι α := fun s ↦ (.raised f, s)

/-- Give up for want of fuel. -/
def giveUp : Action σ ι α := fun s ↦ (.unfinished, s)

def record (e : Event) : Action σ ι Unit := fun s ↦
  (.returned (), { s with world := s.world.record e })

/-- Stage items after those already there. -/
def stage (items : List ι) : Action σ ι Unit := fun s ↦
  (.returned (), { s with staged := s.staged ++ items })

/-- Forget every item staged after the first `savepoint` ones. -/
def rollback (savepoint : Nat) : Action σ ι Unit := fun s ↦
  (.returned (), { s with staged := s.staged.take savepoint })

def savepoint : Action σ ι Nat := fun s ↦ (.returned s.staged.length, s)

/-- A computation on the outside, which leaves the buffer alone. -/
def ofOutside (m : Outside σ α) : Action σ ι α := fun s ↦
  match m s.world with
  | (.ok a, w) => (.returned a, { s with world := w })
  | (.error f, w) => (.raised f, { s with world := w })

/-- Run an action, then, however it ended, something on the outside.  A failure
of the latter takes the place of the ending.  An unfinished action is left alone. -/
def andFinally (m : Action σ ι α) (after : Outside σ β) : Action σ ι α := fun s ↦
  match m s with
  | (.unfinished, s') => (.unfinished, s')
  | (ending, s') =>
    match ofOutside after s' with
    | (.returned _, s'') => (ending, s'')
    | (.raised f, s'') => (.raised f, s'')
    | (.unfinished, s'') => (.unfinished, s'')

@[simp] theorem raise_apply (f : Failure) (s : State σ ι) :
    (raise f : Action σ ι α) s = (.raised f, s) := rfl

@[simp] theorem giveUp_apply (s : State σ ι) :
    (giveUp : Action σ ι α) s = (.unfinished, s) := rfl

@[simp] theorem record_apply (e : Event) (s : State σ ι) :
    record e s = (.returned (), { s with world := s.world.record e }) := rfl

@[simp] theorem stage_apply (items : List ι) (s : State σ ι) :
    (stage items : Action σ ι Unit) s =
      (.returned (), { s with staged := s.staged ++ items }) := rfl

@[simp] theorem rollback_apply (n : Nat) (s : State σ ι) :
    (rollback n : Action σ ι Unit) s =
      (.returned (), { s with staged := s.staged.take n }) := rfl

@[simp] theorem savepoint_apply (s : State σ ι) :
    (savepoint : Action σ ι Nat) s = (.returned s.staged.length, s) := rfl

end Action

namespace Outside

variable {σ α : Type}

def record (e : Event) : Outside σ Unit := fun w ↦ (.ok (), w.record e)

/-- End with what is known already. -/
def ofExcept (r : Except Failure α) : Outside σ α := fun w ↦ (r, w)

end Outside

/-- What a unit of work hands back.  Its items are not staged yet: `apply` does
that. -/
structure Result (σ ι : Type) where
  apply : Action σ ι Unit := pure ()
  status : Int := 0
  next : Option Int := none
  error : Option Failure := none

namespace Result

variable {σ ι : Type}

/-- A result whose items have been staged. -/
def settled (r : Result σ ι) : Result σ ι := { r with apply := pure () }

/-- The same result with another error. -/
def failing (r : Result σ ι) (e : Failure) : Result σ ι := { r with error := some e }

/-- The page to go on with; a cursor of zero names none. -/
def cursor? (r : Result σ ι) : Option Int := r.next.filter (· != 0)

@[simp] theorem settled_error (r : Result σ ι) : r.settled.error = r.error := rfl

@[simp] theorem settled_next (r : Result σ ι) : r.settled.next = r.next := rfl

@[simp] theorem settled_status (r : Result σ ι) : r.settled.status = r.status := rfl

@[simp] theorem failing_error (r : Result σ ι) (e : Failure) :
    (r.failing e).error = some e := rfl

end Result

/-- A unit of work, run for a page. -/
abbrev Work (σ ι : Type) := Int → Action σ ι (Result σ ι)

/-- The page of a call that is not paginated. -/
def noPage : Int := 0

/-- The page a paginated call starts with. -/
def firstPage : Int := 1

end PullRelay
