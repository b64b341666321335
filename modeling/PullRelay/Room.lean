import PullRelay.Fault

/-!
# Room for texts

Not every value has a text.  A whole number is written only if it has no more than
`Numeral.digitLimit` digits, and each thing that stands inside another takes up some of
the stack, of which so much is left that a given number of them can be inside one another.
What is wrong is found in the order of the text.
-/

namespace PullRelay

namespace Value

mutual

/-- Everything in a value can be written, with room for so many things inside one
another. -/
def check (tooDeep : Fault) : (room : Nat) → Value → Except Fault Unit
  | 0, _ => .error tooDeep
  | _ + 1, .int n => if Numeral.IsReadable n then .ok () else .error .numberTooLong
  | room + 1, .list items => checkItems tooDeep room items
  | room + 1, .object fields => checkFields tooDeep room fields
  | _ + 1, _ => .ok ()

def checkItems (tooDeep : Fault) : (room : Nat) → List Value → Except Fault Unit
  | _, [] => .ok ()
  | room, v :: rest => do
    check tooDeep room v
    checkItems tooDeep room rest

def checkFields (tooDeep : Fault) : (room : Nat) → List (String × Value) → Except Fault Unit
  | _, [] => .ok ()
  | room, (_, v) :: rest => do
    check tooDeep room v
    checkFields tooDeep room rest

end

/-- The text of a value, where there is room for it.  A string is its own text and takes
up none. -/
def textWithin (room : Nat) : Value → Except Fault String
  | .text s => .ok s
  | v => (v.check .shownTooDeeply room).map fun _ ↦ v.shown

end Value

/-- The room for texts at the places where values are written.  It is what the calls
around such a place leave of the stack, and so it depends on where a client is called
from and on the number of its layers. -/
structure Room where
  /-- For the message of a failed response. -/
  message : Nat := 980
  /-- For the name and the status of a changed file. -/
  file : Nat := 980
  /-- For the parts of a permission. -/
  permission : Nat := 980
  /-- For a document that is printed. -/
  document : Nat := 985

end PullRelay
