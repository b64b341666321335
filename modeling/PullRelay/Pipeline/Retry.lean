import PullRelay.Pipeline.Action

/-!
# Retry

A `Retry` runs the work it surrounds until it succeeds, fails in a way that is
not worth another attempt, or has used up its attempts.  Before each attempt the
buffer is rolled back to where it was at entry, so that nothing a failed attempt
staged survives.
-/

namespace PullRelay

/-- A budget of attempts with a fixed pause between two of them. -/
structure Retry where
  /-- The attempts that may be made after the first. -/
  further : Nat
  /-- The pause between two attempts, in seconds. -/
  delay : Binary64
  /-- Whether a failure is worth another attempt. -/
  accepts : Failure → Bool := Failure.isRetryable

namespace Retry

variable {σ ι : Type}

def attempts (r : Retry) : Nat := r.further + 1

/-- A budget of `max 1 attempts`. -/
def ofAttempts (attempts : Int) (delay : Binary64) (accepts : Failure → Bool) : Retry :=
  { further := (attempts - 1).toNat, delay, accepts }

/-- Build a budget from options.  The pause is looked at first, and may not be
below zero. -/
def ofValues (attempts delay : Value) (accepts : Failure → Bool) : Except Fault Retry := do
  if ← delay.isBelow 0 then throw (.negativeDelay delay)
  let attempts ← attempts.toInt
  let delay ← delay.toReal
  return ofAttempts attempts delay accepts

/-- One attempt, and up to `further` more; `errors` holds the failures so far. -/
def attempt (r : Retry) (inner : Work σ ι) (page : Int) (savepoint : Nat) :
    (further : Nat) → (errors : List Failure) → Action σ ι (Result σ ι)
  | further, errors => do
    Action.rollback savepoint
    let result ← inner page
    match result.error with
    | none => pure result
    | some e =>
      if r.accepts e then
        match further with
        | 0 => do
          Action.rollback savepoint
          pure (result.failing (.exhausted (errors ++ [e])))
        | further + 1 => do
          Action.record (.slept r.delay)
          attempt r inner page savepoint further (errors ++ [e])
      else pure result

def around (r : Retry) (inner : Work σ ι) : Work σ ι := fun page ↦ do
  let savepoint ← Action.savepoint
  r.attempt inner page savepoint r.further []

@[simp] theorem attempts_ofAttempts (n : Int) (delay : Binary64) (accepts : Failure → Bool) :
    ((ofAttempts n delay accepts).attempts : Int) = max 1 n := by
  simp only [attempts, ofAttempts]
  omega

end Retry

end PullRelay
