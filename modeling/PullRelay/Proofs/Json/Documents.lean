import Mathlib.Data.List.Perm.Basic
import Mathlib.Data.List.Nodup
import PullRelay.Json.Printer
import PullRelay.Proofs.Number.Decimal
import PullRelay.Proofs.Room

/-!
# Documents and the order of their fields

Values that a document can hold and give back (`Value.IsDocument`), how deep their containers
stand inside one another (`Value.depth`), and when two of them are the same but for the order of
fields (`Value.Rearranges`).  Fields in the order of their names are one such order
(`Value.sorted`).
-/

namespace PullRelay

namespace Value

/-- There are no binary numbers in the value, its whole numbers can be read, and no object has
two fields of one name. -/
inductive IsDocument : Value → Prop
  | null : IsDocument .null
  | bool (b : Bool) : IsDocument (.bool b)
  | int {n : Int} (hn : Numeral.IsReadable n) : IsDocument (.int n)
  | text (s : String) : IsDocument (.text s)
  | list {items : List Value} (hitems : ∀ v ∈ items, IsDocument v) : IsDocument (.list items)
  | object {fields : List (String × Value)} (hnames : (fields.map Prod.fst).Nodup)
      (hfields : ∀ f ∈ fields, IsDocument f.2) : IsDocument (.object fields)

/-! ## Collected fields -/

section Fields

variable {α : Type}

theorem setField_of_notMem {key : String} {fields : List (String × α)}
    (h : key ∉ fields.map Prod.fst) (v : α) : setField key v fields = fields ++ [(key, v)] := by
  induction fields with
  | nil => rfl
  | cons f fields ih =>
    obtain ⟨hf, hfields⟩ := not_or.mp (List.mem_cons.not.mp h)
    rw [setField, if_neg (Ne.symm hf), ih hfields, List.cons_append]

theorem mem_of_mem_setField {key : String} {v : α} {fields : List (String × α)} {f : String × α}
    (h : f ∈ setField key v fields) : f = (key, v) ∨ f ∈ fields := by
  induction fields with
  | nil => exact .inl (List.mem_singleton.mp h)
  | cons g fields ih =>
    rw [setField] at h
    split at h
    · exact (List.mem_cons.mp h).imp_right (List.mem_cons_of_mem g)
    · obtain rfl | h := List.mem_cons.mp h
      · exact .inr List.mem_cons_self
      · exact (ih h).imp_right (List.mem_cons_of_mem g)

/-- Names that are all different stay as they came. -/
theorem collectFields_of_nodup {pairs : List (String × α)} (h : (pairs.map Prod.fst).Nodup) :
    collectFields pairs = pairs := by
  -- the fields that are done come in front
  suffices hdone : ∀ done : List (String × α), ((done ++ pairs).map Prod.fst).Nodup →
      pairs.foldl (fun fields p ↦ setField p.1 p.2 fields) done = done ++ pairs from hdone [] h
  clear h
  induction pairs with
  | nil => exact fun done _ ↦ (List.append_nil done).symm
  | cons p pairs ih =>
    intro done h
    have hp : p.1 ∉ done.map Prod.fst := by
      rw [List.map_append, List.map_cons] at h
      exact fun hmem ↦ (List.nodup_append.mp h).2.2 _ hmem _ List.mem_cons_self rfl
    rw [List.foldl_cons, setField_of_notMem hp, ih _ (by simpa using h), List.append_assoc,
      List.singleton_append]

/-- Nothing is collected but what came. -/
theorem mem_of_mem_collectFields {pairs : List (String × α)} {f : String × α}
    (h : f ∈ collectFields pairs) : f ∈ pairs := by
  suffices hdone : ∀ done : List (String × α),
      f ∈ pairs.foldl (fun fields p ↦ setField p.1 p.2 fields) done → f ∈ done ∨ f ∈ pairs from
    (hdone [] h).resolve_left List.not_mem_nil
  clear h
  induction pairs with
  | nil => exact fun done h ↦ .inl h
  | cons p pairs ih =>
    intro done h
    obtain h | h := ih _ h
    · obtain rfl | h := mem_of_mem_setField h
      · exact .inr List.mem_cons_self
      · exact .inl h
    · exact .inr (List.mem_cons_of_mem p h)

end Fields

mutual

/-- The number of containers that stand inside one another. -/
def depth : Value → Nat
  | .list items => depthOfItems items + 1
  | .object fields => depthOfFields fields + 1
  | _ => 0

/-- The depth of the deepest item. -/
def depthOfItems : List Value → Nat
  | [] => 0
  | v :: rest => max v.depth (depthOfItems rest)

/-- The depth of the deepest value of a field. -/
def depthOfFields : List (String × Value) → Nat
  | [] => 0
  | (_, v) :: rest => max v.depth (depthOfFields rest)

end

theorem depthOfItems_le_iff {items : List Value} {n : Nat} :
    depthOfItems items ≤ n ↔ ∀ v ∈ items, v.depth ≤ n := by
  induction items with
  | nil => simp [depthOfItems]
  | cons v items ih => rw [depthOfItems, Nat.max_le, ih, List.forall_mem_cons]

theorem depthOfFields_le_iff {fields : List (String × Value)} {n : Nat} :
    depthOfFields fields ≤ n ↔ ∀ f ∈ fields, f.2.depth ≤ n := by
  induction fields with
  | nil => simp [depthOfFields]
  | cons f fields ih => rw [depthOfFields, Nat.max_le, ih, List.forall_mem_cons]

theorem depth_list_le_iff {items : List Value} {n : Nat} :
    (list items).depth ≤ n + 1 ↔ ∀ v ∈ items, v.depth ≤ n := by
  rw [depth, Nat.add_le_add_iff_right, depthOfItems_le_iff]

theorem depth_object_le_iff {fields : List (String × Value)} {n : Nat} :
    (object fields).depth ≤ n + 1 ↔ ∀ f ∈ fields, f.2.depth ≤ n := by
  rw [depth, Nat.add_le_add_iff_right, depthOfFields_le_iff]

/-! ## The order of fields -/

/-- The values are the same, but for the order of the fields of objects. -/
inductive Rearranges : Value → Value → Prop
  | refl (v : Value) : Rearranges v v
  | list {items items' : List Value} (hlength : items.length = items'.length)
      (hitems : ∀ p ∈ items.zip items', Rearranges p.1 p.2) :
      Rearranges (.list items) (.list items')
  | object {fields fields' : List (String × Value)}
      (hnames : (fields.map Prod.fst).Perm (fields'.map Prod.fst))
      (hfields : ∀ f ∈ fields, ∀ f' ∈ fields', f.1 = f'.1 → Rearranges f.2 f'.2) :
      Rearranges (.object fields) (.object fields')

theorem depthOfItems_congr {items items' : List Value} (hlength : items.length = items'.length)
    (h : ∀ p ∈ items.zip items', p.1.depth = p.2.depth) :
    depthOfItems items = depthOfItems items' := by
  induction items generalizing items' with
  | nil => rw [List.length_eq_zero_iff.mp hlength.symm]
  | cons v items ih =>
    obtain ⟨v', items', rfl⟩ := List.exists_cons_of_length_eq_add_one hlength.symm
    obtain ⟨hv, hitems⟩ := List.forall_mem_cons.mp h
    rw [depthOfItems, depthOfItems, hv, ih (Nat.succ.inj hlength) hitems]

theorem depthOfFields_le_of_perm {fields fields' : List (String × Value)}
    (hnames : (fields.map Prod.fst).Perm (fields'.map Prod.fst))
    (h : ∀ f ∈ fields, ∀ f' ∈ fields', f.1 = f'.1 → f.2.depth = f'.2.depth) :
    depthOfFields fields ≤ depthOfFields fields' := by
  refine depthOfFields_le_iff.mpr fun f hf ↦ ?_
  obtain ⟨f', hf', hname⟩ := List.mem_map.mp (hnames.mem_iff.mp (List.mem_map_of_mem hf))
  rw [h f hf f' hf' hname.symm]
  exact depthOfFields_le_iff.mp (Nat.le_refl _) f' hf'

/-- The order of fields has nothing to do with depth. -/
theorem Rearranges.depth_eq {v v' : Value} (h : v.Rearranges v') : v.depth = v'.depth := by
  induction h with
  | refl => rfl
  | list hlength _ ih => rw [depth, depth, depthOfItems_congr hlength ih]
  | object hnames _ ih =>
    rw [depth, depth, Nat.le_antisymm (depthOfFields_le_of_perm hnames ih)
      (depthOfFields_le_of_perm hnames.symm
        fun f' hf' f hf hname ↦ (ih f hf f' hf' hname.symm).symm)]

theorem sortedItems_eq_map (items : List Value) : sortedItems items = items.map sorted := by
  induction items with
  | nil => rfl
  | cons v items ih => rw [sortedItems, ih, List.map_cons]

theorem sortedFields_eq_map (fields : List (String × Value)) :
    sortedFields fields = fields.map fun f ↦ (f.1, f.2.sorted) := by
  induction fields with
  | nil => rfl
  | cons f fields ih => rw [sortedFields, ih, List.map_cons]

end Value

namespace Json

variable {α β : Type}

theorem perm_sortByName (entries : List (String × α)) : (sortByName entries).Perm entries :=
  List.mergeSort_perm ..

/-- What is done to the values does not matter to the order. -/
theorem sortByName_map (g : α → β) (entries : List (String × α)) :
    sortByName (entries.map fun f ↦ (f.1, g f.2)) =
      (sortByName entries).map fun f ↦ (f.1, g f.2) := by
  symm
  exact List.map_mergeSort fun _ _ _ _ ↦ rfl

/-- Sorting twice is sorting once. -/
theorem sortByName_sortByName (entries : List (String × α)) :
    sortByName (sortByName entries) = sortByName entries := by
  refine List.mergeSort_of_pairwise (List.pairwise_mergeSort ?_ ?_ entries)
  · simp only [Bool.not_eq_true', decide_eq_false_iff_not, String.not_lt]
    exact fun a b c hab hbc ↦ String.le_trans hab hbc
  · simp only [Bool.or_eq_true, Bool.not_eq_true', decide_eq_false_iff_not, String.not_lt]
    exact fun a b ↦ String.le_total a.1 b.1

end Json

namespace Value

/-- So a value is rearranged by sorting it. -/
theorem rearranges_sorted {v : Value} (hv : v.IsDocument) : v.Rearranges v.sorted := by
  induction hv with
  | null | bool | int | text => exact .refl _
  | @list items _ ih =>
    rw [sorted, sortedItems_eq_map]
    have hzip : items.zip (items.map sorted) = items.map fun v ↦ (v, v.sorted) := by
      simpa using List.zip_map' (f := id) (g := sorted) (l := items)
    refine .list (List.length_map _).symm fun p hp ↦ ?_
    rw [hzip] at hp
    obtain ⟨v, hv, rfl⟩ := List.mem_map.mp hp
    exact ih v hv
  | @object fields hnames _ ih =>
    rw [sorted, sortedFields_eq_map]
    have hsorted := Json.perm_sortByName (fields.map fun f ↦ (f.1, f.2.sorted))
    have hfst : (fields.map fun f ↦ (f.1, f.2.sorted)).map Prod.fst = fields.map Prod.fst := by
      rw [List.map_map]
      rfl
    refine .object (hfst ▸ (hsorted.map Prod.fst).symm) fun f hf f' hf' hname ↦ ?_
    obtain ⟨g, hg, rfl⟩ := List.mem_map.mp (hsorted.mem_iff.mp hf')
    obtain rfl := List.inj_on_of_nodup_map hnames hf hg hname
    exact ih f hf

/-! ## Room for documents -/

mutual

/-- The order of fields has nothing to do with height. -/
theorem height_sorted (v : Value) : v.sorted.height = v.height := by
  match v with
  | null | bool _ | int _ | real _ | text _ => rfl
  | list items => rw [sorted, height, height, heightOfItems_sorted items]
  | object fields =>
    have hperm := Json.perm_sortByName (sortedFields fields)
    have hheight : heightOfFields (Json.sortByName (sortedFields fields)) =
        heightOfFields (sortedFields fields) :=
      Nat.le_antisymm
        (heightOfFields_le_iff.mpr fun f hf ↦
          heightOfFields_le_iff.mp (Nat.le_refl _) f (hperm.mem_iff.mp hf))
        (heightOfFields_le_iff.mpr fun f hf ↦
          heightOfFields_le_iff.mp (Nat.le_refl _) f (hperm.mem_iff.mpr hf))
    rw [sorted, height, height, hheight, heightOfFields_sorted fields]

theorem heightOfItems_sorted (items : List Value) :
    heightOfItems (sortedItems items) = heightOfItems items := by
  match items with
  | [] => rfl
  | v :: rest =>
    rw [sortedItems, heightOfItems, heightOfItems, height_sorted v, heightOfItems_sorted rest]

theorem heightOfFields_sorted (fields : List (String × Value)) :
    heightOfFields (sortedFields fields) = heightOfFields fields := by
  match fields with
  | [] => rfl
  | (_, v) :: rest =>
    rw [sortedFields, heightOfFields, heightOfFields, height_sorted v, heightOfFields_sorted rest]

end

mutual

/-- Nor with which numbers there are. -/
theorem perm_numbers_sorted (v : Value) : v.sorted.numbers.Perm v.numbers := by
  match v with
  | null | bool _ | int _ | real _ | text _ => exact .refl _
  | list items => exact perm_numbersOfItems_sorted items
  | object fields =>
    refine .trans ?_ (perm_numbersOfFields_sorted fields)
    rw [sorted, numbers, numbersOfFields_eq_flatMap, numbersOfFields_eq_flatMap]
    exact (Json.perm_sortByName (sortedFields fields)).flatMap_right _

theorem perm_numbersOfItems_sorted (items : List Value) :
    (numbersOfItems (sortedItems items)).Perm (numbersOfItems items) := by
  match items with
  | [] => exact .refl _
  | v :: rest => exact (perm_numbers_sorted v).append (perm_numbersOfItems_sorted rest)

theorem perm_numbersOfFields_sorted (fields : List (String × Value)) :
    (numbersOfFields (sortedFields fields)).Perm (numbersOfFields fields) := by
  match fields with
  | [] => exact .refl _
  | (_, v) :: rest => exact (perm_numbers_sorted v).append (perm_numbersOfFields_sorted rest)

end

/-- A value is printed if it is not too high, and its numbers are not too long. -/
theorem checkPrint_eq_ok_iff {room : Nat} {v : Value} :
    Json.checkPrint room v = .ok () ↔
      v.height ≤ room ∧ ∀ n ∈ v.numbers, Numeral.IsReadable n := by
  rw [Json.checkPrint, check_eq_ok_iff, height_sorted]
  exact and_congr_right fun _ ↦ forall_congr' fun n ↦ by
    rw [(perm_numbers_sorted v).mem_iff]

theorem checkPrint_sorted {room : Nat} {v : Value} :
    Json.checkPrint room v.sorted = .ok () ↔ Json.checkPrint room v = .ok () := by
  rw [checkPrint_eq_ok_iff, checkPrint_eq_ok_iff, height_sorted]
  exact and_congr_right fun _ ↦ forall_congr' fun n ↦ by rw [(perm_numbers_sorted v).mem_iff]

/-- Around the innermost thing in a value there are only containers. -/
theorem IsDocument.height_le {v : Value} (hv : v.IsDocument) : v.height ≤ v.depth + 1 := by
  induction hv with
  | null | bool | int | text => exact Nat.le_refl _
  | list _ ih =>
    rw [height, depth, Nat.add_le_add_iff_right, heightOfItems_le_iff]
    exact fun v hv ↦ (ih v hv).trans
      (Nat.succ_le_succ (depthOfItems_le_iff.mp (Nat.le_refl _) v hv))
  | object _ _ ih =>
    rw [height, depth, Nat.add_le_add_iff_right, heightOfFields_le_iff]
    exact fun f hf ↦ (ih f hf).trans
      (Nat.succ_le_succ (depthOfFields_le_iff.mp (Nat.le_refl _) f hf))

theorem IsDocument.isReadable {v : Value} (hv : v.IsDocument) :
    ∀ n ∈ v.numbers, Numeral.IsReadable n := by
  induction hv with
  | null | bool | text => exact nofun
  | int hn => exact List.forall_mem_singleton.mpr hn
  | list _ ih =>
    intro n hn
    rw [numbers, numbersOfItems_eq_flatMap] at hn
    obtain ⟨v, hv, hmem⟩ := List.mem_flatMap.mp hn
    exact ih v hv n hmem
  | object _ _ ih =>
    intro n hn
    rw [numbers, numbersOfFields_eq_flatMap] at hn
    obtain ⟨f, hf, hmem⟩ := List.mem_flatMap.mp hn
    exact ih f hf n hmem

/-- So a document is printed where there is room for its containers and what is in them. -/
theorem IsDocument.checkPrint {v : Value} (hv : v.IsDocument) {room : Nat} (h : v.depth < room) :
    Json.checkPrint room v = .ok () :=
  checkPrint_eq_ok_iff.mpr ⟨hv.height_le.trans h, hv.isReadable⟩

end Value

end PullRelay
