import PullRelay.Pipeline.Pagination
import PullRelay.Pipeline.Retry
import PullRelay.Quota.Watch

/-!
# Chains of layers

Layers surround a unit of work.  The first layer of a chain is the outermost one:
the chain `[a, b, c]` runs a unit as `a (b (c unit))`, and no layer can reach the
unit past the layers after it.
-/

namespace PullRelay

/-- A layer around a unit of work. -/
inductive Layer (σ : Type) where
  | quota (watch : QuotaWatch σ)
  | retry (budget : Retry)
  | pagination (pages : Pagination)
  /-- Records when the work it surrounds is entered and when it returns. -/
  | recorder (name : String)

namespace Layer

variable {σ ι : Type}

def recordAround (name : String) (inner : Work σ ι) : Work σ ι := fun page ↦ do
  Action.record (.entered name page)
  let result ← inner page
  Action.record (.left name result.status)
  pure result

/-- Surround work with a layer; the fuel is for pagination without a bound. -/
def around (fuel : Nat) : Layer σ → Work σ ι → Work σ ι
  | .quota watch, inner => watch.around inner
  | .retry budget, inner => budget.around inner
  | .pagination pages, inner => pages.around fuel inner
  | .recorder name, inner => recordAround name inner

end Layer

/-- Layers, outermost first. -/
abbrev Chain (σ : Type) := List (Layer σ)

namespace Chain

variable {σ ι : Type}

/-- Surround a unit of work with all layers of a chain. -/
def around (fuel : Nat) (chain : Chain σ) (unit : Work σ ι) : Work σ ι :=
  chain.foldr (fun layer inner ↦ layer.around fuel inner) unit

/-- A chain from candidates, all of which have to be layers. -/
def ofCandidates (candidates : List (Layer σ ⊕ Value)) : Except Fault (Chain σ) :=
  candidates.mapM fun
    | .inl layer => .ok layer
    | .inr other => .error (.notALayer other)

@[simp] theorem around_nil (fuel : Nat) (unit : Work σ ι) : around fuel [] unit = unit := rfl

@[simp] theorem around_cons (fuel : Nat) (layer : Layer σ) (chain : Chain σ) (unit : Work σ ι) :
    around fuel (layer :: chain) unit = layer.around fuel (around fuel chain unit) := rfl

/-- Chains compose: the second one surrounds the unit more closely. -/
theorem around_append (fuel : Nat) (outer inner : Chain σ) (unit : Work σ ι) :
    around fuel (outer ++ inner) unit = around fuel outer (around fuel inner unit) := by
  simp [around]

end Chain

end PullRelay
