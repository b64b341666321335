import PullRelay.Fault

/-!
# Contexts that share a buffer

A call runs in a context: a page, and the buffer that items are staged in.
Contexts derived from one another for other pages share the buffer, so whatever
one of them stages or rolls back, all of them see.
-/

namespace PullRelay

namespace Buffer

variable {ι : Type}

/-- Forget the items from an index on; a negative index counts from the end. -/
def cut (index : Int) (staged : List ι) : List ι :=
  if 0 ≤ index then staged.take index.toNat else staged.take (staged.length + index).toNat

/-- Forget the items from an index on, given as an option: nothing forgets all. -/
def cutAt (index : Value) (staged : List ι) : Except Fault (List ι) :=
  match index with
  | .null => .ok []
  | .int n => .ok (cut n staged)
  | .bool b => .ok (cut (if b then 1 else 0) staged)
  | _ => .error .notAnIndex

@[simp] theorem cut_natCast (n : Nat) (staged : List ι) : cut (n : Int) staged = staged.take n := by
  simp [cut]

end Buffer

/-- Contexts over one buffer: the pages of all of them, in the order in which they
were made, the last of which is the current one. -/
structure Contexts (π ι : Type) where
  earlier : List π := []
  page : π
  staged : List ι := []

namespace Contexts

variable {π ι : Type}

/-- Derive a context for another page from the current one. -/
def withPage (c : Contexts π ι) (page : π) : Contexts π ι :=
  { c with earlier := c.earlier ++ [c.page], page }

def pages (c : Contexts π ι) : List π := c.earlier ++ [c.page]

/-- Make a context the current one again, by its place in the order in which they were
made; a negative index counts from the end. -/
def use (c : Contexts π ι) (i : Int) : Except Fault (Contexts π ι) :=
  let place := if 0 ≤ i then i else c.pages.length + i
  if i < -Int.pow 2 63 ∨ Int.pow 2 63 ≤ i then .error .indexTooLarge
  else if place < 0 then .error .indexOutOfRange
  else
    match c.pages[place.toNat]? with
    | some page => .ok (c.withPage page)
    | none => .error .indexOutOfRange

/-- Make a context the current one again, by an index given as an option. -/
def useAt (c : Contexts π ι) (index : Value) : Except Fault (Contexts π ι) :=
  match index with
  | .int n => c.use n
  | .bool b => c.use (if b then 1 else 0)
  | v => .error (.notAListIndex v.kind)

def stage (c : Contexts π ι) (items : List ι) : Contexts π ι :=
  { c with staged := c.staged ++ items }

/-- The number of items staged through any context. -/
def savepoint (c : Contexts π ι) : Nat := c.staged.length

def rollback (c : Contexts π ι) (savepoint : Nat) : Contexts π ι :=
  { c with staged := c.staged.take savepoint }

/-- Forget the items from an index on, given as an option. -/
def rollbackAt (c : Contexts π ι) (index : Value) : Except Fault (Contexts π ι) :=
  (Buffer.cutAt index c.staged).map fun staged ↦ { c with staged }

@[simp] theorem staged_withPage (c : Contexts π ι) (page : π) :
    (c.withPage page).staged = c.staged := rfl

@[simp] theorem staged_stage (c : Contexts π ι) (items : List ι) :
    (c.stage items).staged = c.staged ++ items := rfl

@[simp] theorem staged_rollback (c : Contexts π ι) (n : Nat) :
    (c.rollback n).staged = c.staged.take n := rfl

end Contexts

end PullRelay
