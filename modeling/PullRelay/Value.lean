import PullRelay.Number.Numeral
import PullRelay.Number.Shortest
import PullRelay.Text.Quoted

/-!
# Values

Payloads, request bodies and loosely typed options are `Value`s: the values of
JSON, with whole numbers of any size kept apart from binary ones and with
objects as lists of fields in order.  A value has a text (`text`, what a message
shows) in which the strings inside lists and objects are quoted.
-/

namespace PullRelay

/-- A value of a payload or an option. -/
inductive Value where
  | null
  | bool (b : Bool)
  | int (n : Int)
  | real (x : Binary64)
  | text (s : String)
  | list (items : List Value)
  | object (fields : List (String × Value))
deriving Inhabited, Repr

/-- The kinds of value, as messages name them. -/
inductive Kind where
  | null
  | bool
  | int
  | real
  | text
  | list
  | object
deriving DecidableEq, Repr

def Kind.name : Kind → String
  | .null => "NoneType"
  | .bool => "bool"
  | .int => "int"
  | .real => "float"
  | .text => "str"
  | .list => "list"
  | .object => "dict"

namespace Value

def kind : Value → Kind
  | .null => .null
  | .bool _ => .bool
  | .int _ => .int
  | .real _ => .real
  | .text _ => .text
  | .list _ => .list
  | .object _ => .object

/-! ## Fields

Objects are lists of named entries, and so are headers: both are looked up and
built in the same way, whatever the entries are. -/

section Fields

variable {α : Type}

def field? (key : String) (fields : List (String × α)) : Option α :=
  (fields.find? (·.1 == key)).map (·.2)

/-- Set a field: a field that is there keeps its place. -/
def setField (key : String) (v : α) : List (String × α) → List (String × α)
  | [] => [(key, v)]
  | f :: rest => if f.1 = key then (key, v) :: rest else f :: setField key v rest

/-- Fields read one after the other: of a repeated one the last value counts. -/
def collectFields (pairs : List (String × α)) : List (String × α) :=
  pairs.foldl (fun fields p ↦ setField p.1 p.2 fields) []

@[simp] theorem field?_nil (key : String) : field? key ([] : List (String × α)) = none := rfl

@[simp] theorem field?_setField (key : String) (v : α) (fields : List (String × α)) :
    field? key (setField key v fields) = some v := by
  induction fields with
  | nil => simp [setField, field?]
  | cons f rest ih =>
    unfold setField
    split
    · simp [field?]
    next h => simpa [field?, List.find?_cons, beq_eq_false_iff_ne.mpr h] using ih

theorem field?_setField_of_ne {key other : String} (h : other ≠ key) (v : α)
    (fields : List (String × α)) :
    field? other (setField key v fields) = field? other fields := by
  induction fields with
  | nil => simp [setField, field?, beq_eq_false_iff_ne.mpr h.symm]
  | cons f rest ih =>
    unfold setField
    split
    next e => simp [field?, beq_eq_false_iff_ne.mpr h.symm, e]
    next =>
      simp only [field?, List.find?_cons]
      split
      · rfl
      · simpa [field?] using ih

end Fields

def fields? : Value → Option (List (String × Value))
  | .object fields => some fields
  | _ => none

/-- Counts as true: not null, not zero, not empty. -/
def isTruthy : Value → Bool
  | .null => false
  | .bool b => b
  | .int n => n != 0
  | .real x => !x.isZero
  | .text s => !s.isEmpty
  | .list items => !items.isEmpty
  | .object fields => !fields.isEmpty

/-- The layout of binary numbers in texts. -/
def realLayout : Binary64.Layout := {}

mutual

/-- The text of a value inside another one. -/
def shown : Value → String
  | .null => "None"
  | .bool true => "True"
  | .bool false => "False"
  | .int n => toString n
  | .real x => realLayout.text x
  | .text s => Text.quoted s
  | .list items => "[" ++ shownItems items ++ "]"
  | .object fields => "\x7b" ++ shownFields fields ++ "\x7d"

def shownItems : List Value → String
  | [] => ""
  | [v] => v.shown
  | v :: rest => v.shown ++ ", " ++ shownItems rest

def shownFields : List (String × Value) → String
  | [] => ""
  | [(k, v)] => Text.quoted k ++ ": " ++ v.shown
  | (k, v) :: rest => Text.quoted k ++ ": " ++ v.shown ++ ", " ++ shownFields rest

end

/-- The text of a value: a string is its own text, anything else is shown. -/
def asText : Value → String
  | .text s => s
  | v => v.shown

/-- The value is this whole number: a whole or binary number equal to it, or a
truth value for 0 or 1. -/
def equalsInt (v : Value) (n : Int) : Bool :=
  match v with
  | .bool b => n == if b then 1 else 0
  | .int m => m == n
  | .real x => x.equalsInt n
  | _ => false

/-- The value is below a whole number; none if it is no number. -/
def belowInt? (v : Value) (n : Int) : Option Bool :=
  match v with
  | .bool b => some ((if b then 1 else 0 : Int) < n)
  | .int m => some (m < n)
  | .real x => some (x.belowInt n)
  | _ => none

/-- The least natural number at or above a number, if there is one. -/
def ceiling? : Value → Option Nat
  | .bool b => some (if b then 1 else 0)
  | .int n => some n.toNat
  | .real x => x.ceiling?
  | _ => none

mutual

/-- Equality of values of the same kind throughout. -/
def same : Value → Value → Bool
  | .null, .null => true
  | .bool a, .bool b => a == b
  | .int a, .int b => a == b
  | .real a, .real b => a == b
  | .text a, .text b => a == b
  | .list a, .list b => sameItems a b
  | .object a, .object b => sameFields a b
  | _, _ => false

def sameItems : List Value → List Value → Bool
  | [], [] => true
  | a :: as, b :: bs => a.same b && sameItems as bs
  | _, _ => false

def sameFields : List (String × Value) → List (String × Value) → Bool
  | [], [] => true
  | (j, a) :: as, (k, b) :: bs => j == k && a.same b && sameFields as bs
  | _, _ => false

end

instance : BEq Value := ⟨same⟩

end Value

end PullRelay
