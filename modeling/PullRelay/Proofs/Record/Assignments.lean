import Mathlib.Data.List.Nodup
import PullRelay.Proofs.Except
import PullRelay.Record.Change

/-!
# Assignments to records

A record that has been built obeys its schema: every field has a value, and the value obeys the
rule of the field (`Schema.admits_of_build`).  What is set later is not checked.  So a property of
values stays true of the fields of a record for as long as nothing else is put where fields are
looked up (`Schema.fits_assign`), and a record that is not frozen has in each field whatever the
field was set to last (`Schema.assign_of_plain`, `Schema.field?_overwrite`).
-/

namespace PullRelay.Record

/-- The value obeys the rule as it is. -/
inductive Rule.Admits : Rule → Value → Prop
  | text {least s} (h : least ≤ s.length) : Admits (.text least) (.text s)
  | whole {least? n} (h : ∀ least ∈ least?, least ≤ n) : Admits (.whole least?) (.int n)
  | moment (m : Moment) : Admits .moment (.text m.text)
  | choice {among s} (h : s ∈ among) : Admits (.choice among) (.text s)

/-- Whatever comes out of a check obeys the rule. -/
theorem Rule.admits_of_check {rule : Rule} {v w : Value} (h : rule.check v = .ok w) :
    rule.Admits w := by
  cases rule with
  | text least =>
    unfold check at h
    dsimp only at h
    split at h
    · split at h
      · cases h
      next hleast =>
        cases h
        exact .text (Nat.le_of_not_lt hleast)
    · cases h
  | whole least? =>
    obtain ⟨n, -, h⟩ := Except.exists_of_bind_eq_ok h
    cases least? with
    | none =>
      cases h
      exact .whole nofun
    | some least =>
      dsimp only at h
      split at h
      · cases h
      next hleast =>
        cases h
        refine .whole ?_
        rintro _ ⟨⟩
        exact Int.not_lt.mp hleast
  | moment =>
    obtain ⟨m, -, rfl⟩ := Except.exists_of_map_eq_ok h
    exact .moment m
  | choice among =>
    unfold check at h
    dsimp only at h
    split at h
    · split at h
      next hmem =>
        cases h
        exact .choice (List.contains_iff_mem.mp hmem)
      · cases h
    · cases h

/-! ## Records that have been built -/

/-- Fields have different names, and defaults that obey their rules. -/
structure Schema.IsSound (s : Schema) : Prop where
  nodup : (s.fields.map (·.name)).Nodup
  admits_default : ∀ f ∈ s.fields, ∀ d ∈ f.default?, f.rule.Admits d

theorem Field.admits_of_resolve {f : Field} {given : List (String × Value)} {v : Value}
    (hdefault : ∀ d ∈ f.default?, f.rule.Admits d) (h : f.resolve given = .ok v) :
    f.rule.Admits v := by
  unfold resolve at h
  split at h
  · exact Rule.admits_of_check h
  next hd =>
    cases h
    exact hdefault _ hd
  · cases h

namespace Schema

variable {given table : List (String × Value)}

/-- Without problems every field is there, with the value that was found for it. -/
theorem field?_resolve {fields : List Field} (hnodup : (fields.map (·.name)).Nodup)
    (h : (resolve given fields).2 = []) : ∀ f ∈ fields, ∃ v, f.resolve given = .ok v ∧
      Value.field? f.name (resolve given fields).1 = some v := by
  induction fields with
  | nil => nofun
  | cons f fields ih =>
    obtain ⟨hf, hrest⟩ := List.nodup_cons.mp hnodup
    cases hresolve : f.resolve given with
    | error p => simp [resolve, hresolve] at h
    | ok v =>
      simp only [resolve, hresolve] at h ⊢
      intro g hg
      rcases List.mem_cons.mp hg with rfl | hg
      · exact ⟨v, hresolve, by simp [Value.field?]⟩
      · have hne : f.name ≠ g.name := fun heq ↦ hf (List.mem_map.mpr ⟨g, hg, heq.symm⟩)
        obtain ⟨w, hw, hfield⟩ := ih hrest h g hg
        refine ⟨w, hw, ?_⟩
        rw [Value.field?, List.find?_cons_of_neg (by simpa using hne)]
        exact hfield

/-- What has no field is not there. -/
theorem field?_resolve_eq_none {fields : List Field} {name : String}
    (h : ∀ f ∈ fields, f.name ≠ name) : Value.field? name (resolve given fields).1 = none := by
  induction fields with
  | nil => rfl
  | cons f fields ih =>
    obtain ⟨hf, hrest⟩ := List.forall_mem_cons.mp h
    unfold resolve
    split
    · rw [Value.field?, List.find?_cons_of_neg (by simpa using hf)]
      exact ih hrest
    · exact ih hrest

/-- A record that has been built obeys its schema. -/
theorem admits_of_build {s : Schema} (hs : s.IsSound) (h : s.build given = .ok table) :
    ∀ f ∈ s.fields, ∃ v, Value.field? f.name table = some v ∧ f.rule.Admits v := by
  intro f hf
  unfold build at h
  dsimp only at h
  split at h
  next hproblems =>
    cases h
    obtain ⟨v, hv, hfield⟩ := field?_resolve hs.nodup (List.append_eq_nil_iff.mp hproblems).1 f hf
    exact ⟨v, hfield, Field.admits_of_resolve (hs.admits_default f hf) hv⟩
  · cases h

theorem field?_build_eq_none {s : Schema} (h : s.build given = .ok table) {name : String}
    (hname : ∀ f ∈ s.fields, f.name ≠ name) : Value.field? name table = none := by
  unfold build at h
  dsimp only at h
  split at h
  · cases h
    exact field?_resolve_eq_none hname
  · cases h

/-! ## Assignments -/

/-- What can come of setting what has a name. -/
inductive Becomes (books : Books) (name : String) (v : Value) (r : Standing) : Standing → Prop
  | refused : Becomes books name v r r
  | table {more} (hname : name = tableName) (hv : v = .object more) :
      Becomes books name v r { r with table := more, replaced := true }
  | surplus (hname : name = books.surplus) : Becomes books name v r { r with surplus := v }
  | hidden : Becomes books name v r { r with hidden := v }
  | notes : Becomes books name v r { r with notes? := some v }
  | field : Becomes books name v r { r with table := Value.setField name v r.table }

theorem becomes_setTable {books : Books} {name : String} (hname : name = tableName) (v : Value)
    (r : Standing) : Becomes books name v r (setTable v r).2 := by
  unfold setTable
  split
  · exact .table hname rfl
  · exact .refused

theorem becomes_setField (s : Schema) (books : Books) (name : String) (v : Value) (r : Standing) :
    Becomes books name v r (s.setField name v r).2 := by
  unfold setField
  repeat' split
  all_goals first | exact .refused | exact .field

theorem becomes_setNamed (s : Schema) (books : Books) (name : String) (v : Value) (r : Standing) :
    Becomes books name v r (s.setNamed books name v r).2 := by
  unfold setNamed
  repeat' split
  next => exact .refused
  next hname => exact becomes_setTable hname v r
  next => exact .refused
  next => exact .refused
  next hname => exact .surplus hname
  next => exact .hidden
  next => exact .notes
  next => exact .field
  next => exact s.becomes_setField books name v r

theorem becomes_set (s : Schema) (books : Books) (name : String) (v : Value) (r : Standing) :
    Becomes books name v r (s.set books name v r).2 := by
  unfold set
  split
  · exact s.becomes_setNamed books name v r
  · exact .refused

/-- Set one after the other, each whether the ones before were refused or not. -/
def assign (s : Schema) (books : Books) (changes : List (String × Value)) (r : Standing) :
    Standing := changes.foldl (fun r change ↦ (s.set books change.1 change.2 r).2) r

/-! ## Properties of values -/

section Fits

variable {s : Schema} {p : String → Value → Prop} {books : Books} {r : Standing}

/-- What the table has under the names of fields is such as `p` says. -/
def Fits (s : Schema) (p : String → Value → Prop) (table : List (String × Value)) : Prop :=
  ∀ f ∈ s.fields, ∀ v, Value.field? f.name table = some v → p f.name v

/-- Wherever a field of the record is looked up, there is what is such as `p` says. -/
structure FitsStanding (s : Schema) (p : String → Value → Prop) (r : Standing) : Prop where
  table : s.Fits p r.table
  surplus : ∀ more, r.surplus = .object more → s.Fits p more

/-- The change puts no other value where a field is looked up: neither in a field, nor in a new
table, nor beyond the schema. -/
structure Puts (s : Schema) (books : Books) (p : String → Value → Prop) (change : String × Value) :
    Prop where
  field : ∀ f ∈ s.fields, f.name = change.1 → p f.name change.2
  table : change.1 = tableName ∨ change.1 = books.surplus →
    ∀ more, change.2 = .object more → s.Fits p more

theorem Fits.setField (h : s.Fits p table) {name : String} {v : Value}
    (hv : ∀ f ∈ s.fields, f.name = name → p f.name v) : s.Fits p (Value.setField name v table) := by
  intro f hf w hw
  by_cases hname : f.name = name
  · rw [hname, Value.field?_setField] at hw
    cases hw
    exact hv f hf hname
  · rw [Value.field?_setField_of_ne hname] at hw
    exact h f hf w hw

/-- One change. -/
theorem fits_set (h : s.FitsStanding p r) {change : String × Value} (hp : s.Puts books p change) :
    s.FitsStanding p (s.set books change.1 change.2 r).2 := by
  have hset := s.becomes_set books change.1 change.2 r
  generalize (s.set books change.1 change.2 r).2 = r' at hset ⊢
  cases hset with
  | refused => exact h
  | table hname hv => exact ⟨hp.table (.inl hname) _ hv, h.surplus⟩
  | surplus hname => exact ⟨h.table, hp.table (.inr hname)⟩
  | hidden | notes => exact ⟨h.table, h.surplus⟩
  | field => exact ⟨h.table.setField hp.field, h.surplus⟩

/-- And any number of them. -/
theorem fits_assign (h : s.FitsStanding p r) {changes : List (String × Value)}
    (hp : ∀ change ∈ changes, s.Puts books p change) :
    s.FitsStanding p (s.assign books changes r) := by
  induction changes generalizing r with
  | nil => exact h
  | cons change rest ih =>
    obtain ⟨hchange, hrest⟩ := List.forall_mem_cons.mp hp
    exact ih (fits_set h hchange) hrest

/-- What is found under the name of a field. -/
theorem FitsStanding.member (h : s.FitsStanding p r) {f : Field} (hf : f ∈ s.fields) {kind : String}
    {v : Value} (hv : r.member kind f.name = .ok v) : p f.name v := by
  unfold Standing.member at hv
  split at hv
  next hfield =>
    cases hv
    exact h.table f hf _ hfield
  next =>
    split at hv
    · split at hv
      next more hmore =>
        split at hv
        next hfield =>
          cases hv
          exact h.surplus more hmore f hf _ hfield
        · cases hv
      · cases hv
    · cases hv

end Fits

end Schema

/-- The name begins with an underscore. -/
def IsHidden (name : String) : Prop := name.toList.head? = some '_'

instance : DecidablePred IsHidden := fun name ↦
  inferInstanceAs (Decidable (name.toList.head? = some '_'))

/-- The books have names that begin with an underscore. -/
structure Books.AreHidden (books : Books) : Prop where
  surplus : IsHidden books.surplus
  hidden : IsHidden books.hidden
  notes : IsHidden books.notes
  setters : IsHidden books.setters

namespace Schema

/-- Fields can be set under this name. -/
def settable (s : Schema) (name : String) : Bool :=
  !s.frozen && !derived.contains name && s.fields.any (·.name == name)

/-- The table after changes under names of fields, and under names that are refused. -/
def overwrite (s : Schema) (changes : List (String × Value)) (table : List (String × Value)) :
    List (String × Value) :=
  changes.foldl (fun table change ↦
    if s.settable change.1 then Value.setField change.1 change.2 table else table) table

section Plain

variable {s : Schema} {books : Books} {r : Standing} {name : String}
  {changes table : List (String × Value)}

theorem setField_snd (s : Schema) (name : String) (v : Value) (r : Standing) :
    (s.setField name v r).2 =
      { r with table := if s.settable name then Value.setField name v r.table else r.table } := by
  unfold setField settable
  cases s.frozen <;> cases derived.contains name <;> cases s.fields.any (·.name == name) <;> rfl

theorem ne_of_isHidden {other : String} (hname : ¬IsHidden name) (hother : IsHidden other) :
    name ≠ other := by
  rintro rfl
  exact hname hother

theorem isHidden_of_mem {other : String}
    (hother : other ∈ className :: tableName :: observersName :: derivedHidden) :
    IsHidden other := by
  have hall : ∀ other ∈ className :: tableName :: observersName :: derivedHidden,
      IsHidden other := by decide
  exact hall other hother

/-- Under a plain name, a field is set or nothing is. -/
theorem set_of_plain (hbooks : books.AreHidden) (hname : ¬IsHidden name)
    (hsetters : Value.field? books.setters r.table = none) (v : Value) :
    s.set books name v r = s.setField name v r := by
  have hne {other : String}
      (h : other ∈ className :: tableName :: observersName :: derivedHidden) : name ≠ other :=
    ne_of_isHidden hname (isHidden_of_mem h)
  have hderived : ¬derivedHidden.contains name = true := fun hmem ↦
    hname (isHidden_of_mem (by simpa using .inr (.inr (.inr (List.contains_iff_mem.mp hmem)))))
  rw [set, Standing.findSetter, hsetters]
  dsimp only
  rw [setNamed, if_neg (hne (by simp)), if_neg (hne (by simp)), if_neg (hne (by simp)),
    if_neg hderived, if_neg (ne_of_isHidden hname hbooks.surplus),
    if_neg (ne_of_isHidden hname hbooks.hidden), if_neg (ne_of_isHidden hname hbooks.notes)]
  exact if_neg hname

theorem assign_of_plain (hbooks : books.AreHidden)
    (hchanges : ∀ change ∈ changes, ¬IsHidden change.1)
    (hsetters : Value.field? books.setters r.table = none) :
    s.assign books changes r = { r with table := s.overwrite changes r.table } := by
  induction changes generalizing r with
  | nil => rfl
  | cons change rest ih =>
    obtain ⟨hchange, hrest⟩ := List.forall_mem_cons.mp hchanges
    have hkept : Value.field? books.setters (s.set books change.1 change.2 r).2.table = none := by
      rw [set_of_plain hbooks hchange hsetters, setField_snd]
      dsimp only
      split
      · rwa [Value.field?_setField_of_ne (ne_of_isHidden hchange hbooks.setters).symm]
      · exact hsetters
    have hset := set_of_plain (s := s) hbooks hchange hsetters change.2
    rw [assign, List.foldl_cons, ← assign, ih hrest hkept, hset, setField_snd]
    rfl

/-- A field holds what it was set to last, if it can be set at all. -/
theorem field?_overwrite (s : Schema) (name : String) (changes table : List (String × Value)) :
    Value.field? name (s.overwrite changes table) =
      (if s.settable name then Value.field? name changes.reverse else none).or
        (Value.field? name table) := by
  induction changes generalizing table with
  | nil => cases s.settable name <;> rfl
  | cons change rest ih =>
    have hlast : Value.field? name (change :: rest).reverse =
        (Value.field? name rest.reverse).or (Value.field? name [change]) := by
      rw [List.reverse_cons, Value.field?, List.find?_append, Option.map_or]
      rfl
    rw [overwrite, List.foldl_cons, ← overwrite, ih, hlast]
    by_cases hname : change.1 = name
    · subst hname
      have hsome : Value.field? change.1 [change] = some change.2 := by simp [Value.field?]
      cases s.settable change.1 with
      | false => rfl
      | true =>
        simp only [if_true, Value.field?_setField, hsome]
        cases Value.field? change.1 rest.reverse <;> rfl
    · have hnone : Value.field? name [change] = none := by simpa [Value.field?] using hname
      rw [hnone, Option.or_none]
      cases s.settable change.1 with
      | false => rfl
      | true => rw [if_pos rfl, Value.field?_setField_of_ne (Ne.symm hname)]

end Plain

end Schema

end PullRelay.Record
