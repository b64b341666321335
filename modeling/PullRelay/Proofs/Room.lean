import PullRelay.Proofs.Except
import PullRelay.Room

/-!
# What there is room for

A value can be written if no more things stand inside one another in it than there is room
for (`Value.height`), and if none of the whole numbers in it has too many digits
(`Value.numbers`).  Nothing else can be wrong with it (`Value.check_eq_ok_iff`,
`Value.cause_of_check`), and so there is a text of every value but those
(`Value.exists_textWithin_iff`).
-/

namespace PullRelay.Value

mutual

/-- The number of things that stand inside one another, the value itself included. -/
def height : Value → Nat
  | .list items => heightOfItems items + 1
  | .object fields => heightOfFields fields + 1
  | _ => 1

/-- The height of the highest item. -/
def heightOfItems : List Value → Nat
  | [] => 0
  | v :: rest => max v.height (heightOfItems rest)

/-- The height of the highest value of a field. -/
def heightOfFields : List (String × Value) → Nat
  | [] => 0
  | (_, v) :: rest => max v.height (heightOfFields rest)

end

mutual

/-- The whole numbers in a value, in the order of its text. -/
def numbers : Value → List Int
  | .int n => [n]
  | .list items => numbersOfItems items
  | .object fields => numbersOfFields fields
  | _ => []

/-- The whole numbers in a list. -/
def numbersOfItems : List Value → List Int
  | [] => []
  | v :: rest => v.numbers ++ numbersOfItems rest

/-- The whole numbers in the values of fields. -/
def numbersOfFields : List (String × Value) → List Int
  | [] => []
  | (_, v) :: rest => v.numbers ++ numbersOfFields rest

end

theorem heightOfItems_le_iff {items : List Value} {n : Nat} :
    heightOfItems items ≤ n ↔ ∀ v ∈ items, v.height ≤ n := by
  induction items with
  | nil => simp [heightOfItems]
  | cons v items ih => rw [heightOfItems, Nat.max_le, ih, List.forall_mem_cons]

theorem heightOfFields_le_iff {fields : List (String × Value)} {n : Nat} :
    heightOfFields fields ≤ n ↔ ∀ f ∈ fields, f.2.height ≤ n := by
  induction fields with
  | nil => simp [heightOfFields]
  | cons f fields ih => rw [heightOfFields, Nat.max_le, ih, List.forall_mem_cons]

theorem numbersOfItems_eq_flatMap (items : List Value) :
    numbersOfItems items = items.flatMap numbers := by
  induction items with
  | nil => rfl
  | cons v items ih => rw [numbersOfItems, ih, List.flatMap_cons]

theorem numbersOfFields_eq_flatMap (fields : List (String × Value)) :
    numbersOfFields fields = fields.flatMap fun f ↦ f.2.numbers := by
  induction fields with
  | nil => rfl
  | cons f fields ih => rw [numbersOfFields, ih, List.flatMap_cons]

section Check

variable {tooDeep : Fault}

mutual

/-- What can be written is not too high, and its numbers are not too long. -/
theorem of_check_eq_ok {room : Nat} {v : Value} (h : v.check tooDeep room = .ok ()) :
    v.height ≤ room ∧ ∀ n ∈ v.numbers, Numeral.IsReadable n := by
  match room, v with
  | 0, v => cases v <;> cases h
  | room + 1, .null | room + 1, .bool _ | room + 1, .real _ | room + 1, .text _ =>
    simp [height, numbers]
  | room + 1, .int n =>
    by_cases hn : Numeral.IsReadable n
    · simp [height, numbers, hn]
    · simp [check, hn] at h
  | room + 1, .list items =>
    obtain ⟨hheight, hnumbers⟩ := of_checkItems_eq_ok h
    exact ⟨Nat.succ_le_succ hheight, hnumbers⟩
  | room + 1, .object fields =>
    obtain ⟨hheight, hnumbers⟩ := of_checkFields_eq_ok h
    exact ⟨Nat.succ_le_succ hheight, hnumbers⟩

theorem of_checkItems_eq_ok {room : Nat} {items : List Value}
    (h : checkItems tooDeep room items = .ok ()) :
    heightOfItems items ≤ room ∧ ∀ n ∈ numbersOfItems items, Numeral.IsReadable n := by
  match items with
  | [] => simp [heightOfItems, numbersOfItems]
  | v :: rest =>
    obtain ⟨_, hv, hrest⟩ := Except.exists_of_bind_eq_ok h
    obtain ⟨hheight, hnumbers⟩ := of_check_eq_ok hv
    obtain ⟨hheights, hmore⟩ := of_checkItems_eq_ok hrest
    exact ⟨Nat.max_le.mpr ⟨hheight, hheights⟩, List.forall_mem_append.mpr ⟨hnumbers, hmore⟩⟩

theorem of_checkFields_eq_ok {room : Nat} {fields : List (String × Value)}
    (h : checkFields tooDeep room fields = .ok ()) :
    heightOfFields fields ≤ room ∧ ∀ n ∈ numbersOfFields fields, Numeral.IsReadable n := by
  match fields with
  | [] => simp [heightOfFields, numbersOfFields]
  | (_, v) :: rest =>
    obtain ⟨_, hv, hrest⟩ := Except.exists_of_bind_eq_ok h
    obtain ⟨hheight, hnumbers⟩ := of_check_eq_ok hv
    obtain ⟨hheights, hmore⟩ := of_checkFields_eq_ok hrest
    exact ⟨Nat.max_le.mpr ⟨hheight, hheights⟩, List.forall_mem_append.mpr ⟨hnumbers, hmore⟩⟩

end

/-- Why something of this height with these numbers cannot be written. -/
inductive Cause (tooDeep : Fault) (room height : Nat) (numbers : List Int) : Fault → Prop
  | tooDeep (h : room < height) : Cause tooDeep room height numbers tooDeep
  | tooLong {n : Int} (hmem : n ∈ numbers) (hn : ¬Numeral.IsReadable n) :
    Cause tooDeep room height numbers .numberTooLong

namespace Cause

variable {room height height' : Nat} {numbers numbers' : List Int} {fault : Fault}

theorem mono (h : Cause tooDeep room height numbers fault) (hheight : height ≤ height')
    (hnumbers : numbers ⊆ numbers') : Cause tooDeep room height' numbers' fault := by
  cases h with
  | tooDeep h => exact .tooDeep (Nat.lt_of_lt_of_le h hheight)
  | tooLong hmem hn => exact .tooLong (hnumbers hmem) hn

/-- Something stands around it. -/
theorem succ (h : Cause tooDeep room height numbers fault) :
    Cause tooDeep (room + 1) (height + 1) numbers fault := by
  cases h with
  | tooDeep h => exact .tooDeep (Nat.succ_lt_succ h)
  | tooLong hmem hn => exact .tooLong hmem hn

end Cause

mutual

theorem cause_of_check {room : Nat} {v : Value} {fault : Fault}
    (h : v.check tooDeep room = .error fault) :
    Cause tooDeep room v.height v.numbers fault := by
  match room, v with
  | 0, v =>
    have hpos : 0 < v.height := by cases v <;> simp [height]
    obtain rfl : tooDeep = fault := by cases v <;> exact Except.error.inj h
    exact .tooDeep hpos
  | room + 1, .null | room + 1, .bool _ | room + 1, .real _ | room + 1, .text _ => cases h
  | room + 1, .int n =>
    by_cases hn : Numeral.IsReadable n
    · simp [check, hn] at h
    · simp only [check, hn, if_false, Except.error.injEq] at h
      exact h ▸ .tooLong List.mem_cons_self hn
  | room + 1, .list items => exact (cause_of_checkItems h).succ
  | room + 1, .object fields => exact (cause_of_checkFields h).succ

theorem cause_of_checkItems {room : Nat} {items : List Value} {fault : Fault}
    (h : checkItems tooDeep room items = .error fault) :
    Cause tooDeep room (heightOfItems items) (numbersOfItems items) fault := by
  match items with
  | [] => cases h
  | v :: rest =>
    obtain hv | ⟨_, -, hrest⟩ := Except.eq_error_of_bind h
    · exact (cause_of_check hv).mono (Nat.le_max_left ..) (List.subset_append_left ..)
    · exact (cause_of_checkItems hrest).mono (Nat.le_max_right ..) (List.subset_append_right ..)

theorem cause_of_checkFields {room : Nat} {fields : List (String × Value)} {fault : Fault}
    (h : checkFields tooDeep room fields = .error fault) :
    Cause tooDeep room (heightOfFields fields) (numbersOfFields fields) fault := by
  match fields with
  | [] => cases h
  | (_, v) :: rest =>
    obtain hv | ⟨_, -, hrest⟩ := Except.eq_error_of_bind h
    · exact (cause_of_check hv).mono (Nat.le_max_left ..) (List.subset_append_left ..)
    · exact (cause_of_checkFields hrest).mono (Nat.le_max_right ..) (List.subset_append_right ..)

end

theorem check_eq_ok_iff {room : Nat} {v : Value} :
    v.check tooDeep room = .ok () ↔
      v.height ≤ room ∧ ∀ n ∈ v.numbers, Numeral.IsReadable n := by
  refine ⟨of_check_eq_ok, fun ⟨hheight, hnumbers⟩ ↦ ?_⟩
  cases h : v.check tooDeep room with
  | ok _ => rfl
  | error fault =>
    cases cause_of_check h with
    | tooDeep hlt => exact absurd hheight (Nat.not_le_of_lt hlt)
    | tooLong hmem hn => exact absurd (hnumbers _ hmem) hn

end Check

section Text

variable {room : Nat} {v : Value}

theorem textWithin_of_ne (h : v.kind ≠ .text) (room : Nat) :
    v.textWithin room = (v.check .shownTooDeeply room).map fun _ ↦ v.shown := by
  cases v with
  | text s => exact absurd rfl h
  | _ => rfl

theorem cause_of_textWithin {fault : Fault} (h : v.textWithin room = .error fault) :
    Cause .shownTooDeeply room v.height v.numbers fault := by
  cases v with
  | text s => cases h
  | _ => exact cause_of_check (Except.of_map_eq_error h)

/-- A string always has a text.  Anything else has one if it is not too high, and its numbers
are not too long. -/
theorem exists_textWithin_iff :
    (∃ text, v.textWithin room = .ok text) ↔
      v.kind = .text ∨ v.height ≤ room ∧ ∀ n ∈ v.numbers, Numeral.IsReadable n := by
  by_cases hkind : v.kind = .text
  · refine iff_of_true ?_ (.inl hkind)
    cases v with
    | text s => exact ⟨s, rfl⟩
    | _ => cases hkind
  · rw [textWithin_of_ne hkind, ← @check_eq_ok_iff .shownTooDeeply]
    constructor
    · rintro ⟨_, h⟩
      obtain ⟨_, hcheck, -⟩ := Except.exists_of_map_eq_ok h
      exact .inr hcheck
    · rintro (h | h)
      · exact absurd h hkind
      · exact ⟨v.shown, by rw [h]; rfl⟩

end Text

end PullRelay.Value
