import PullRelay.Record.Schema

/-!
# Changing records

A record stands as a table, which holds its fields and may hold more, and keeps books
beside it.  What is set later is not checked again.  The fields of a frozen record
cannot be set one by one; its table can be replaced all the same, and what has a name
that begins with an underscore can be set.

A record agrees with a new one if their fields do, unless its books tell them apart.
-/

namespace PullRelay.Record

/-- The names under which the books of a record can be set. -/
structure Books where
  /-- What is kept beyond the schema. -/
  surplus : String
  /-- What is kept out of sight. -/
  hidden : String
  /-- The names of the fields that have been set. -/
  notes : String
  /-- Who sets what has a name. -/
  setters : String
  /-- What the record is a special case of. -/
  descent : String

/-- A record as it stands. -/
structure Standing where
  /-- The table of its fields, and of other things that have been set. -/
  table : List (String × Value)
  /-- What is kept beyond the schema. -/
  surplus : Value := .null
  /-- What is kept out of sight. -/
  hidden : Value := .null
  /-- What was put in place of the names of the fields that have been set. -/
  notes? : Option Value := none
  /-- The table is not the one that the record was built with. -/
  replaced : Bool := false

namespace Standing

/-- What a record of a kind has under a name: what is in its table, or else what is kept
beyond the schema, where that can be looked up. -/
def member (kind name : String) (r : Standing) : Except Fault Value :=
  match Value.field? name r.table with
  | some v => .ok v
  | none =>
    if r.surplus.isTruthy then
      match r.surplus with
      | .object more =>
        match Value.field? name more with
        | some v => .ok v
        | none => .error (.noMember kind name)
      | v => .error (.notNamed v.kind)
    else .error (.noMember kind name)

/-- The text of the moment that a record of a kind has under a name, with the offset in
digits.  A table that has been put in place of another holds no moments. -/
def momentText (kind name : String) (r : Standing) : Except Fault String := do
  let v ← r.member kind name
  let moment? := match v with
    | .text s => if r.replaced then none else (Moment.ofText s).toOption
    | _ => none
  match moment? with
  | some m => .ok m.isoText
  | none => .error (.noMember v.kind.name "isoformat")

/-- Note down that a field has been set, if there still is a place for it. -/
def note (r : Standing) : Except Failure Unit :=
  match r.notes? with
  | none => .ok ()
  | some v => .error (.fault (.noMember v.kind.name "add"))

/-- Find the one who sets what has a name.  Whoever is named in the table of the record
comes first, and is none who could do it. -/
def findSetter (books : Books) (name : String) (r : Standing) : Except Failure Unit :=
  match Value.field? books.setters r.table with
  | none => .ok ()
  | some (.object setters) =>
    match Value.field? name setters with
    | none | some .null => .ok ()
    | some v => .error (.fault (.notCallable v.kind))
  | some v => .error (.fault (.noMember v.kind.name "get"))

/-- The name of what a record is a special case of, among its descent. -/
def originName : String := "origin"

/-- The record is a special case of nothing else. -/
def isOriginal (books : Books) (r : Standing) : Except Failure Bool :=
  match Value.field? books.descent r.table with
  | none => .ok true
  | some (.object descent) =>
    match Value.field? originName descent with
    | none => .error (.fault (.missingField originName))
    | some v => .ok !v.isTruthy
  | some v => .error (.fault (.notNamed v.kind))

/-- Nothing is kept beyond the schema, or out of sight.  Whatever counts as false is
nothing beyond the schema; out of sight, only null is nothing. -/
def isPlain (r : Standing) : Bool := !r.surplus.isTruthy && r.hidden == .null

end Standing

def className : String := "__class__"

def tableName : String := "__dict__"

/-- The name for those who refer to a record without keeping it. -/
def observersName : String := "__weakref__"

/-- The names for what follows from the schema and from how a record was built. -/
def derived : List String := ["model_extra", "model_fields_set"]

/-- Names of the same meaning that are no names of fields. -/
def derivedHidden : List String := ["__fields__", "__fields_set__"]

namespace Schema

/-- The fields of a record out of a table that may hold more. -/
def select (s : Schema) (table : List (String × Value)) : List (String × Value) :=
  s.fields.filterMap fun f ↦ (Value.field? f.name table).map fun v ↦ (f.name, v)

/-- Set the table, which has to be one. -/
def setTable (v : Value) (r : Standing) : Except Failure Unit × Standing :=
  match v with
  | .object table => (.ok (), { r with table, replaced := true })
  | v => (.error (.fault (.notAFieldTable v.kind)), r)

/-- Set a field of a record that can be changed.  It is set before that is noted
down. -/
def setField (s : Schema) (name : String) (v : Value) (r : Standing) :
    Except Failure Unit × Standing :=
  if s.frozen then (.error (.invalid s.name [(name, .frozen)]), r)
  else if derived.contains name then (.error (.fault (.fixedField s.name name)), r)
  else if s.fields.any (·.name == name) then
    (r.note, { r with table := Value.setField name v r.table })
  else (.error (.fault (.unknownField s.name name)), r)

/-- Set what has a name.  Names that begin with an underscore are no fields, and are
looked at first: the table and the books can be set even if the record is frozen, some
cannot be set at all, and the others go into the table. -/
def setNamed (s : Schema) (books : Books) (name : String) (v : Value) (r : Standing) :
    Except Failure Unit × Standing :=
  if name = className then (.error (.fault (.notAClass v.kind)), r)
  else if name = tableName then setTable v r
  else if name = observersName then (.error (.fault (.unwritable s.name name)), r)
  else if derivedHidden.contains name then (.error (.fault (.fixedField s.name name)), r)
  else if name = books.surplus then (.ok (), { r with surplus := v })
  else if name = books.hidden then (.ok (), { r with hidden := v })
  else if name = books.notes then (.ok (), { r with notes? := some v })
  else if name.toList.head? = some '_' then
    (.ok (), { r with table := Value.setField name v r.table })
  else s.setField name v r

/-- Change a record: find who sets what has the name, and set it.  The value is not
checked. -/
def set (s : Schema) (books : Books) (name : String) (v : Value) (r : Standing) :
    Except Failure Unit × Standing :=
  match r.findSetter books name with
  | .ok _ => s.setNamed books name v r
  | .error f => (.error f, r)

/-- Change a record in order, up to the first change that fails; what stands at the
end. -/
def setAll (s : Schema) (books : Books) :
    List (String × Value) → Standing → Except Failure Unit × Standing
  | [], r => (.ok (), r)
  | change :: rest, r =>
    match s.set books change.1 change.2 r with
    | (.ok _, r) => setAll s books rest r
    | failed => failed

/-- A record as it stands agrees with one that has just been built. -/
def agreesStanding (s : Schema) (books : Books) (r : Standing) (built : List (String × Value)) :
    Except Failure Bool :=
  (r.isOriginal books).map fun original ↦ original && r.isPlain && s.agrees r.table built

end Schema

end PullRelay.Record
