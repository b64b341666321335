import PullRelay.Failure
import PullRelay.Moment.Reader
import PullRelay.Number.Lenient

/-!
# Records and their schemas

A record is an object whose fields follow a schema: which fields there are, in
which order, and what each may hold.  `Schema.build` checks all fields and
reports the problems of all of them, in the order of the schema; what is not in
a closed schema comes last.
-/

namespace PullRelay.Record

/-- What a field may hold. -/
inductive Rule where
  /-- A text of at least so many characters. -/
  | text (least : Nat)
  /-- A whole number, not below a bound if there is one. -/
  | whole (least? : Option Int)
  /-- A moment, kept as its text. -/
  | moment
  /-- One of some texts. -/
  | choice (among : List String)
deriving DecidableEq, Repr

/-- The whole number that a value may be taken for: a text that spells one, a
binary number without a fraction, a truth value. -/
def wholeOf : Value → Except Problem Int
  | .int n => .ok n
  | .bool b => .ok (if b then 1 else 0)
  | .text s => (Lenient.readWhole s).mapError fun
    | .malformed => .integerText
    | .tooLong => .integerTooLong
  | .real (.finite negative s e) =>
    if Binary64.isWhole s e then
      let n : Int := if negative then -(Binary64.wholePart s e : Int) else Binary64.wholePart s e
      if -Int.pow 2 63 < n ∧ n < Int.pow 2 63 then .ok n else .error .integerTooLong
    else .error .fraction
  | .real _ => .error .notFinite
  | _ => .error .notInteger

/-- A moment within the calendar, which begins with the year 1. -/
def inCalendar (m : Moment) : Except Problem Moment :=
  if m.date.year = 0 then .error (.badMoment .yearZero) else .ok m

/-- The moment that a value may be taken for: a text that is written for one, or a
number that a binary one can come near. -/
def momentOf : Value → Except Problem Moment
  | .text s => ((Moment.ofText s).mapError .badMomentText).bind inCalendar
  | .int n =>
    if (Binary64.ofInt? n).isSome then
      ((Moment.ofNumber n).mapError .badMoment).bind inCalendar
    else .error .notMoment
  | .real x => ((Moment.ofReal x).mapError .badMoment).bind inCalendar
  | _ => .error .notMoment

/-- Check a value against a rule; the value may change its kind. -/
def Rule.check (rule : Rule) (v : Value) : Except Problem Value :=
  match rule with
  | .text least =>
    match v with
    | .text s => if s.length < least then .error (.tooShort least) else .ok (.text s)
    | _ => .error .notText
  | .whole least? => do
    let n ← wholeOf v
    match least? with
    | some least => if n < least then .error (.below least) else .ok (.int n)
    | none => .ok (.int n)
  | .moment => (momentOf v).map fun m ↦ .text m.text
  | .choice among =>
    match v with
    | .text s => if among.contains s then .ok (.text s) else .error (.notAmong among)
    | _ => .error (.notAmong among)

/-- A value agrees with one that has been checked: it is the same text, number or
moment. -/
def Rule.agrees (rule : Rule) (v checked : Value) : Bool :=
  match rule, v, checked with
  | .whole _, v, .int n => v.equalsInt n
  | .moment, .text s, .text t =>
    match Moment.ofText s, Moment.ofText t with
    | .ok m, .ok n => m.same n
    | _, _ => false
  | _, v, checked => v == checked

/-- A field of a schema; without a default it has to be given. -/
structure Field where
  name : String
  rule : Rule
  default? : Option Value := none

/-- The fields of a kind of record. -/
structure Schema where
  name : String
  fields : List Field
  /-- Refuses other fields. -/
  closed : Bool := false
  /-- Refuses to be changed. -/
  frozen : Bool := false

namespace Field

/-- The value of a field among those given. -/
def resolve (f : Field) (given : List (String × Value)) : Except Problem Value :=
  match Value.field? f.name given, f.default? with
  | some v, _ => f.rule.check v
  | none, some d => .ok d
  | none, none => .error .missing

end Field

namespace Schema

/-- The fields with their values, and the problems. -/
def resolve (given : List (String × Value)) :
    List Field → List (String × Value) × List (String × Problem)
  | [] => ([], [])
  | f :: rest =>
    let others := resolve given rest
    match f.resolve given with
    | .ok v => ((f.name, v) :: others.1, others.2)
    | .error p => (others.1, (f.name, p) :: others.2)

def extras (s : Schema) (given : List (String × Value)) : List String :=
  (given.map (·.1)).filter fun name ↦ !s.fields.any (·.name == name)

/-- The fields of a record from those given, all of them checked. -/
def build (s : Schema) (given : List (String × Value)) : Except Failure (List (String × Value)) :=
  let resolved := resolve given s.fields
  let refused := if s.closed then (s.extras given).map fun name ↦ (name, Problem.notAllowed) else []
  match resolved.2 ++ refused with
  | [] => .ok resolved.1
  | problems => .error (.invalid s.name problems)

/-- A record agrees with one that has been checked: all its fields do. -/
def agrees (s : Schema) (record checked : List (String × Value)) : Bool :=
  s.fields.all fun f ↦
    match Value.field? f.name record, Value.field? f.name checked with
    | some v, some w => f.rule.agrees v w
    | _, _ => false

end Schema

end PullRelay.Record
