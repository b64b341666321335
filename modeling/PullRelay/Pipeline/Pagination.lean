import PullRelay.Pipeline.Action

/-!
# Pagination

A `Pagination` runs the work it surrounds page by page, from the first page on,
and stages the items of each page as it comes.  It ends at the first failure, at
the first page that names no further one, or at its bound.  Without a bound it
follows the pages as far as the fuel lasts.
-/

namespace PullRelay

/-- A bound on the number of pages, as it was configured: `null` for none, else
a number that is not below one. -/
structure Pagination where
  limit : Value

namespace Pagination

variable {σ ι : Type}

def unbounded : Pagination := ⟨.null⟩

def atMost (n : Nat) : Pagination := ⟨.int n⟩

def defaultLimit : Value := .int 100

/-- The number of pages that may be read, if there is a bound.  Not a number is a
bound that is never reached. -/
def bound? (p : Pagination) : Option Nat := p.limit.ceiling?

/-- Build a bound from an option: nothing, or a number that is not below one. -/
def ofValue : Value → Except Fault Pagination
  | .null => .ok unbounded
  | limit => do
    if ← limit.isBelow 1 then throw (.pageBoundTooSmall limit)
    return ⟨limit⟩

/-- Read a page, and up to `further` more; past them, `atBound` decides. -/
def follow (inner : Work σ ι) (atBound : Result σ ι → Action σ ι (Result σ ι)) :
    (further : Nat) → (page : Int) → Action σ ι (Result σ ι)
  | further, page => do
    let result ← inner page
    result.apply
    match result.error, result.cursor? with
    | none, some next =>
      match further with
      | 0 => atBound result
      | further + 1 => follow inner atBound further next
    | _, _ => pure result.settled

/-- Surround work with pagination.  The page it is run for does not matter. -/
def around (fuel : Nat) (p : Pagination) (inner : Work σ ι) : Work σ ι := fun _ ↦
  match p.bound? with
  | some n =>
    follow inner (fun result ↦ pure (result.settled.failing (.pageLimit p.limit))) (n - 1) firstPage
  | none => follow inner (fun _ ↦ Action.giveUp) fuel firstPage

@[simp] theorem bound?_unbounded : unbounded.bound? = none := rfl

@[simp] theorem bound?_atMost (n : Nat) : (atMost n).bound? = some n := rfl

end Pagination

end PullRelay
