import PullRelay.Proofs.Json.Depth
import PullRelay.Proofs.Json.Documents
import PullRelay.Proofs.Json.Literals
import PullRelay.Proofs.Json.Texts

/-!
# Reading documents that were printed

What is printed for a value is read as that value, with its fields in the order of their names,
if there is room for its containers (`readWithin_print`), and it is refused without that room
(`readWithin_print_of_lt`).  Each kind of value is read back on its own (`Rereads`): texts and
numbers in one step, lists and objects entry by entry.
-/

namespace PullRelay.Json

open PullRelay.Text

theorem skip_of_head {cs : List Char} (h : ∀ c ∈ cs.head?, isSpace c = false) : skip cs = cs := by
  cases cs with
  | nil => rfl
  | cons c cs => exact List.dropWhile_cons_of_neg (Bool.eq_false_iff.mp (h c rfl))

theorem skip_newline (level : Nat) (cs : List Char) : skip (newline level ++ cs) = skip cs := by
  refine List.dropWhile_append_of_pos fun c hc ↦ ?_
  rcases List.mem_cons.mp hc with rfl | hc
  · rfl
  · rw [List.eq_of_mem_replicate hc]
    rfl

theorem skip_comma (cs : List Char) : skip (',' :: cs) = ',' :: cs := rfl

theorem ends_newline (level : Nat) (cs : List Char) : Ends (newline level ++ cs) := by
  rintro _ ⟨⟩
  exact .inr rfl

theorem ends_comma (cs : List Char) : Ends (',' :: cs) := by
  rintro _ ⟨⟩
  exact .inl rfl

/-! ## Layout -/

theorem exists_block_cons (opening closing : Char) (level : Nat) (entries : List (List Char)) :
    ∃ more, block opening closing level entries = opening :: more := by
  cases entries <;> exact ⟨_, rfl⟩

/-- The entries, up to the bracket that closes them. -/
def rows (closing : Char) (level : Nat) (entries : List (List Char)) : List Char :=
  joinWith (',' :: newline (level + 1)) entries ++ (newline level ++ [closing])

theorem block_append {entries : List (List Char)} (h : entries ≠ []) (opening closing : Char)
    (level : Nat) (rest : List Char) :
    block opening closing level entries ++ rest =
      opening :: (newline (level + 1) ++ (rows closing level entries ++ rest)) := by
  cases entries with
  | nil => exact absurd rfl h
  | cons entry entries => simp [block, rows]

/-- The bracket that opens a block takes one step, and what it opens is shorter. -/
theorem exists_fuel_of_block {opening closing : Char} {level fuel : Nat}
    {entries : List (List Char)} {rest : List Char}
    (hfuel : 2 * (block opening closing level entries ++ rest).length ≤ fuel) :
    ∃ fuel', fuel = fuel' + 1 ∧
      (entries ≠ [] → 2 * (rows closing level entries ++ rest).length < fuel') := by
  obtain ⟨more, hmore⟩ := exists_block_cons opening closing level entries
  have hpositive : 1 ≤ fuel := by
    rw [hmore, List.cons_append, List.length_cons] at hfuel
    omega
  obtain ⟨fuel, rfl⟩ := Nat.exists_eq_add_of_le' hpositive
  refine ⟨fuel, rfl, fun hne ↦ ?_⟩
  rw [block_append hne, List.length_cons, List.length_append] at hfuel
  omega

theorem rows_singleton_append (closing : Char) (level : Nat) (entry rest : List Char) :
    rows closing level [entry] ++ rest = entry ++ (newline level ++ closing :: rest) := by
  simp [rows, joinWith]

theorem rows_cons_append {entries : List (List Char)} (h : entries ≠ []) (closing : Char)
    (level : Nat) (entry rest : List Char) :
    rows closing level (entry :: entries) ++ rest =
      entry ++ (',' :: (newline (level + 1) ++ (rows closing level entries ++ rest))) := by
  simp [rows, joinWith_cons _ _ h]

theorem exists_rows_cons (closing : Char) (level : Nat) (c : Char) (cs : List Char)
    (entries : List (List Char)) (rest : List Char) :
    ∃ more, rows closing level ((c :: cs) :: entries) ++ rest = c :: more := by
  by_cases hlast : entries = []
  · rw [hlast, rows_singleton_append]
    exact ⟨_, rfl⟩
  · rw [rows_cons_append hlast]
    exact ⟨_, rfl⟩

/-- Entries do not begin with blanks, nor with the bracket that closes them, if the first one does
not. -/
theorem skip_rows {closing c : Char} (hspace : isSpace c = false) (hc : c ≠ closing) (level : Nat)
    (cs : List Char) (entries : List (List Char)) (rest : List Char) :
    let after := rows closing level ((c :: cs) :: entries) ++ rest
    skip after = after ∧ ∀ d ∈ after.head?, d ≠ closing := by
  intro after
  obtain ⟨more, hmore⟩ := exists_rows_cons closing level c cs entries rest
  have hafter : after = c :: more := hmore
  rw [hafter]
  exact ⟨skip_of_head (by rintro _ ⟨⟩; exact hspace), by rintro _ ⟨⟩; exact hc⟩

theorem writeItems_eq_map (level : Nat) (items : List Value) :
    writeItems level items = items.map (write level) := by
  induction items with
  | nil => rfl
  | cons v items ih => rw [writeItems, ih, List.map_cons]

theorem writeFields_eq_map (level : Nat) (fields : List (String × Value)) :
    writeFields level fields = fields.map fun f ↦ (f.1, write level f.2) := by
  induction fields with
  | nil => rfl
  | cons f fields ih => rw [writeFields, ih, List.map_cons]

/-- A field as it is written. -/
def writeEntry (level : Nat) (f : String × Value) : List Char := writeField (f.1, write level f.2)

theorem exists_writeEntry_cons (level : Nat) (f : String × Value) :
    ∃ cs, writeEntry level f = '"' :: cs := ⟨_, rfl⟩

theorem length_write_le_writeEntry (level : Nat) (f : String × Value) :
    (write level f.2).length ≤ (writeEntry level f).length := by
  simp only [writeEntry, writeField, List.length_append, List.length_cons]
  omega

theorem write_object (level : Nat) (fields : List (String × Value)) :
    write level (.object fields) =
      block '\x7b' '\x7d' level ((sortByName fields).map (writeEntry (level + 1))) := by
  rw [write, writeFields_eq_map, sortByName_map, List.map_map]
  rfl

/-- What is written begins neither with a blank nor with a bracket that closes a list. -/
theorem exists_write_cons {v : Value} (hv : v.IsDocument) (level : Nat) :
    ∃ c cs, write level v = c :: cs ∧ isSpace c = false ∧ c ≠ ']' := by
  cases hv with
  | null => exact ⟨'n', _, rfl, rfl, by decide⟩
  | bool b =>
    cases b with
    | false => exact ⟨'f', _, rfl, rfl, by decide⟩
    | true => exact ⟨'t', _, rfl, rfl, by decide⟩
  | @int n hn =>
    obtain ⟨c, cs, htext, hc, -⟩ := exists_toString_cons n []
    rw [List.append_nil] at htext
    refine ⟨c, cs, htext, ?_⟩
    obtain rfl | hc := hc
    · decide
    · simp only [isSpace, Bool.or_eq_false_iff, beq_eq_false_iff_ne]
      exact ⟨⟨⟨⟨ne_of_isDigit hc rfl, ne_of_isDigit hc rfl⟩, ne_of_isDigit hc rfl⟩,
        ne_of_isDigit hc rfl⟩, ne_of_isDigit hc rfl⟩
  | text s => exact ⟨'"', _, rfl, rfl, by decide⟩
  | list =>
    obtain ⟨more, hmore⟩ := exists_block_cons '[' ']' level _
    exact ⟨'[', more, hmore, rfl, by decide⟩
  | object =>
    obtain ⟨more, hmore⟩ := exists_block_cons '\x7b' '\x7d' level _
    exact ⟨'\x7b', more, hmore, rfl, by decide⟩

theorem skip_write {v : Value} (hv : v.IsDocument) (level : Nat) (rest : List Char) :
    skip (write level v ++ rest) = write level v ++ rest := by
  obtain ⟨c, cs, hwrite, hc, -⟩ := exists_write_cons hv level
  rw [hwrite]
  exact skip_of_head (by rintro _ ⟨⟩; exact hc)

/-! ## Values -/

/-- On every level the value is read back with its fields in order, if there is room for it. -/
def Rereads (v : Value) : Prop :=
  ∀ ⦃level depth fuel : Nat⦄ ⦃rest : List Char⦄, v.depth ≤ depth → Ends rest →
    2 * (write level v ++ rest).length ≤ fuel →
      readValue fuel depth (write level v ++ rest) = .ok (v.sorted, rest)

/-- A value that is no container takes one step. -/
theorem rereads_of_plain {v : Value} (hsorted : v.sorted = v)
    (h : ∀ level rest, Ends rest → ∃ c cs, write level v ++ rest = c :: cs ∧ c ≠ '[' ∧
      c ≠ '\x7b' ∧ readPlain? c cs = some (v, rest)) : Rereads v := by
  intro level depth fuel rest _ hrest hfuel
  obtain ⟨c, cs, hwrite, hlist, hobject, hread⟩ := h level rest hrest
  rw [hwrite, List.length_cons] at hfuel
  obtain ⟨fuel, rfl⟩ := Nat.exists_eq_add_of_le' (show 1 ≤ fuel by omega)
  rw [hwrite, readValue_plain hlist hobject, hread, hsorted]
  rfl

theorem rereads_null : Rereads .null :=
  rereads_of_plain rfl fun _ rest _ ↦ ⟨'n', _, rfl, by decide, by decide, rfl⟩

theorem rereads_bool (b : Bool) : Rereads (.bool b) := by
  refine rereads_of_plain rfl fun level rest _ ↦ ?_
  cases b with
  | false => exact ⟨'f', _, rfl, by decide, by decide, rfl⟩
  | true => exact ⟨'t', _, rfl, by decide, by decide, rfl⟩

theorem rereads_text (s : String) : Rereads (.text s) := by
  refine rereads_of_plain rfl fun level rest _ ↦ ?_
  obtain ⟨after, htext, hread⟩ := readText?_writeText s rest
  refine ⟨'"', after, htext, by decide, by decide, ?_⟩
  rw [readPlain?, if_pos rfl, hread]
  rfl

theorem rereads_int {n : Int} (hn : Numeral.IsReadable n) : Rereads (.int n) := by
  refine rereads_of_plain rfl fun level rest hrest ↦ ?_
  have hread := readNumber?_toString hn hrest
  obtain ⟨c, cs, htext, hc, hword⟩ := exists_toString_cons n rest
  have hne {quote : Char} (hquote : quote ≠ '-') (hdigit : quote.isDigit = false) : c ≠ quote := by
    obtain rfl | hc := hc
    · exact hquote.symm
    · exact ne_of_isDigit hc hdigit
  refine ⟨c, cs, htext, hne (by decide) rfl, hne (by decide) rfl, ?_⟩
  rw [readPlain?, if_neg (hne (by decide) rfl), hword, ← htext, hread]
  rfl

/-- The first of some items is neither a blank nor the end of the list. -/
theorem skip_items {v : Value} (hv : v.IsDocument) (items : List Value) (level : Nat)
    (rest : List Char) :
    let after := rows ']' level ((v :: items).map (write (level + 1))) ++ rest
    skip after = after ∧ ∀ c ∈ after.head?, c ≠ ']' := by
  obtain ⟨c, cs, hwrite, hspace, hc⟩ := exists_write_cons hv (level + 1)
  rw [List.map_cons, hwrite]
  exact skip_rows hspace hc level cs _ rest

/-- Items are read back one after the other. -/
theorem readItems_rows {items : List Value} (hne : items ≠ []) {level depth fuel : Nat}
    {rest : List Char}
    (hitems : ∀ v ∈ items, v.IsDocument ∧ Rereads v ∧ v.depth ≤ depth)
    (hfuel : 2 * (rows ']' level (items.map (write (level + 1))) ++ rest).length < fuel) :
    readItems fuel depth (rows ']' level (items.map (write (level + 1))) ++ rest) =
      .ok (items.map Value.sorted, rest) := by
  induction items generalizing fuel with
  | nil => exact absurd rfl hne
  | cons v items ih =>
    obtain ⟨⟨-, hv, hdepth⟩, hmore⟩ := List.forall_mem_cons.mp hitems
    obtain ⟨fuel, rfl⟩ := Nat.exists_eq_add_of_le' (show 1 ≤ fuel by omega)
    rw [List.map_cons] at hfuel ⊢
    cases items with
    | nil =>
      rw [List.map_nil, rows_singleton_append] at hfuel ⊢
      have hread := hv hdepth (ends_newline level (']' :: rest)) (Nat.le_of_lt_succ hfuel)
      simp only [readItems, hread, skip_newline]
      rfl
    | cons next items =>
      rw [rows_cons_append (by simp)] at hfuel ⊢
      have hread := hv hdepth (ends_comma _) (Nat.le_of_lt_succ hfuel)
      have hshorter : 2 * (rows ']' level ((next :: items).map (write (level + 1))) ++ rest).length
          < fuel := by
        simp only [List.length_append, List.length_cons] at hfuel ⊢
        omega
      simp only [readItems, hread, skip_comma, skip_newline,
        (skip_items (hmore next List.mem_cons_self).1 items level rest).1,
        ih (List.cons_ne_nil _ _) hmore hshorter]
      rfl

theorem readValue_items {rest after : List Char} (hskip : skip rest = after)
    (hafter : ∀ c ∈ after.head?, c ≠ ']') (fuel depth : Nat) :
    readValue (fuel + 1) (depth + 1) ('[' :: rest) =
      (readItems fuel depth after).map fun r ↦ (.list r.1, r.2) := by
  rw [readValue_list, hskip]
  split
  · exact absurd rfl (hafter ']' rfl)
  · rfl

/-- A list is read back if its items are. -/
theorem rereads_list {items : List Value} (hitems : ∀ v ∈ items, v.IsDocument ∧ Rereads v) :
    Rereads (.list items) := by
  intro level depth fuel rest hdepth _ hfuel
  obtain ⟨depth, rfl⟩ := Nat.exists_eq_add_of_le' (Nat.le_of_add_left_le hdepth)
  rw [Value.depth_list_le_iff] at hdepth
  rw [write, writeItems_eq_map] at hfuel ⊢
  rw [Value.sorted, Value.sortedItems_eq_map]
  obtain ⟨fuel, rfl, hshorter⟩ := exists_fuel_of_block hfuel
  cases items with
  | nil => rfl
  | cons v items =>
    have hparts : ∀ x ∈ v :: items, x.IsDocument ∧ Rereads x ∧ x.depth ≤ depth :=
      fun x hx ↦ ⟨(hitems x hx).1, (hitems x hx).2, hdepth x hx⟩
    obtain ⟨hskip, hafter⟩ := skip_items (hparts v List.mem_cons_self).1 items level rest
    have hread := readItems_rows (List.cons_ne_nil v items) hparts (hshorter (by simp))
    rw [block_append (by simp), readValue_items ((skip_newline _ _).trans hskip) hafter, hread]
    rfl

theorem readName?_writeEntry {f : String × Value} (hf : f.2.IsDocument) (level : Nat)
    (rest : List Char) :
    readName? (writeEntry level f ++ rest) = some (f.1, write level f.2 ++ rest) := by
  obtain ⟨after, htext, hread⟩ := readText?_writeText f.1 (':' :: ' ' :: (write level f.2 ++ rest))
  have hentry : writeEntry level f ++ rest = '"' :: after := by
    rw [← htext, writeEntry, writeField]
    simp only [List.append_assoc, List.cons_append]
  have hcolon (cs : List Char) : skip (':' :: cs) = ':' :: cs := rfl
  have hblank (cs : List Char) : skip (' ' :: cs) = skip cs := rfl
  rw [hentry]
  simp only [readName?, hread, hcolon, hblank, skip_write hf]

/-- The first of some fields is neither a blank nor the end of the object. -/
theorem skip_fields (f : String × Value) (fields : List (String × Value)) (level : Nat)
    (rest : List Char) :
    let after := rows '\x7d' level ((f :: fields).map (writeEntry (level + 1))) ++ rest
    skip after = after ∧ ∀ c ∈ after.head?, c ≠ '\x7d' := by
  obtain ⟨cs, hwrite⟩ := exists_writeEntry_cons (level + 1) f
  rw [List.map_cons, hwrite]
  exact skip_rows rfl (by decide) level cs _ rest

/-- Fields are read back one after the other. -/
theorem readFields_rows {fields : List (String × Value)} (hne : fields ≠ [])
    {level depth fuel : Nat} {rest : List Char}
    (hfields : ∀ f ∈ fields, f.2.IsDocument ∧ Rereads f.2 ∧ f.2.depth ≤ depth)
    (hfuel : 2 * (rows '\x7d' level (fields.map (writeEntry (level + 1))) ++ rest).length < fuel) :
    readFields fuel depth (rows '\x7d' level (fields.map (writeEntry (level + 1))) ++ rest) =
      .ok (fields.map fun f ↦ (f.1, f.2.sorted), rest) := by
  induction fields generalizing fuel with
  | nil => exact absurd rfl hne
  | cons f fields ih =>
    obtain ⟨⟨hf, hreads, hdepth⟩, hmore⟩ := List.forall_mem_cons.mp hfields
    obtain ⟨fuel, rfl⟩ := Nat.exists_eq_add_of_le' (show 1 ≤ fuel by omega)
    have hname := readName?_writeEntry hf (level + 1)
    have hread {after : List Char} (hafter : Ends after)
        (hle : 2 * (writeEntry (level + 1) f ++ after).length ≤ fuel) :
        readValue fuel depth (write (level + 1) f.2 ++ after) = .ok (f.2.sorted, after) := by
      have hlength := length_write_le_writeEntry (level + 1) f
      rw [List.length_append] at hle
      exact hreads hdepth hafter (by rw [List.length_append]; omega)
    rw [List.map_cons] at hfuel ⊢
    cases fields with
    | nil =>
      rw [List.map_nil, rows_singleton_append] at hfuel ⊢
      simp only [readFields_succ, hname,
        hread (ends_newline level ('\x7d' :: rest)) (Nat.le_of_lt_succ hfuel), skip_newline]
      rfl
    | cons next fields =>
      rw [rows_cons_append (by simp)] at hfuel ⊢
      have hshorter : 2 * (rows '\x7d' level ((next :: fields).map (writeEntry (level + 1))) ++
          rest).length < fuel := by
        simp only [List.length_append, List.length_cons] at hfuel ⊢
        omega
      simp only [readFields_succ, hname, hread (ends_comma _) (Nat.le_of_lt_succ hfuel), skip_comma,
        skip_newline, (skip_fields next fields level rest).1,
        ih (List.cons_ne_nil _ _) hmore hshorter]
      rfl

theorem readValue_fields {rest after : List Char} (hskip : skip rest = after)
    (hafter : ∀ c ∈ after.head?, c ≠ '\x7d') (fuel depth : Nat) :
    readValue (fuel + 1) (depth + 1) ('\x7b' :: rest) =
      (readFields fuel depth after).map fun r ↦ (.object (Value.collectFields r.1), r.2) := by
  rw [readValue_object, hskip]
  split
  · exact absurd rfl (hafter '\x7d' rfl)
  · rfl

theorem sorted_object (fields : List (String × Value)) :
    (Value.object fields).sorted =
      .object ((sortByName fields).map fun f ↦ (f.1, f.2.sorted)) := by
  rw [Value.sorted, Value.sortedFields_eq_map, sortByName_map]

/-- An object is read back, in the order in which its fields were written, if their values are. -/
theorem rereads_object {fields : List (String × Value)} (hnames : (fields.map Prod.fst).Nodup)
    (hfields : ∀ f ∈ fields, f.2.IsDocument ∧ Rereads f.2) : Rereads (.object fields) := by
  intro level depth fuel rest hdepth _ hfuel
  obtain ⟨depth, rfl⟩ := Nat.exists_eq_add_of_le' (Nat.le_of_add_left_le hdepth)
  rw [Value.depth_object_le_iff] at hdepth
  rw [write_object] at hfuel ⊢
  rw [sorted_object]
  have hperm := perm_sortByName fields
  have hcollect : Value.collectFields ((sortByName fields).map fun f ↦ (f.1, f.2.sorted)) =
      (sortByName fields).map fun f ↦ (f.1, f.2.sorted) := by
    refine Value.collectFields_of_nodup ?_
    rw [List.map_map]
    exact (hperm.map Prod.fst).nodup_iff.mpr hnames
  have hparts : ∀ f ∈ sortByName fields, f.2.IsDocument ∧ Rereads f.2 ∧ f.2.depth ≤ depth :=
    fun f hf ↦ have hf := hperm.mem_iff.mp hf
      ⟨(hfields f hf).1, (hfields f hf).2, hdepth f hf⟩
  generalize sortByName fields = entries at *
  obtain ⟨fuel, rfl, hshorter⟩ := exists_fuel_of_block hfuel
  cases entries with
  | nil => rfl
  | cons f entries =>
    obtain ⟨hskip, hafter⟩ := skip_fields f entries level rest
    have hread := readFields_rows (List.cons_ne_nil f entries) hparts (hshorter (by simp))
    rw [block_append (by simp), readValue_fields ((skip_newline _ _).trans hskip) hafter, hread]
    exact congrArg (fun fields ↦ Except.ok (Value.object fields, rest)) hcollect

/-! ## Documents -/

/-- Whatever is written is read back. -/
theorem rereads {v : Value} (hv : v.IsDocument) : Rereads v := by
  induction hv with
  | null => exact rereads_null
  | bool b => exact rereads_bool b
  | int hn => exact rereads_int hn
  | text s => exact rereads_text s
  | list hitems ih => exact rereads_list fun v hv ↦ ⟨hitems v hv, ih v hv⟩
  | object hnames hfields ih => exact rereads_object hnames fun f hf ↦ ⟨hfields f hf, ih f hf⟩

/-- A document that ends its last line is read as the value it was printed for, with room for
its containers. -/
theorem readWithin_print {v : Value} (hv : v.IsDocument) {depth : Nat} (hdepth : v.depth ≤ depth) :
    readWithin depth (print v ++ "\n") = .ok v.sorted := by
  have htext : (print v ++ "\n").toList = write 0 v ++ ['\n'] := by
    rw [String.toList_append, print, String.toList_ofList]
    rfl
  have hread : readValue (2 * (write 0 v ++ ['\n']).length + 1) depth (write 0 v ++ ['\n']) =
      .ok (v.sorted, ['\n']) := rereads hv hdepth (ends_newline 0 []) (Nat.le_succ _)
  rw [readWithin, htext, skip_write hv, hread]
  rfl

/-- Without that room it is refused for its depth, and no other document is read instead. -/
theorem readWithin_print_of_lt {v : Value} (hv : v.IsDocument) {depth : Nat}
    (hdepth : depth < v.depth) :
    ∃ container, readWithin depth (print v ++ "\n") = .error (.tooDeep container) := by
  by_contra! hfits
  -- what fits would be the value itself, which is too deep
  have hread := readWithin_of_le hdepth.le hfits
  rw [readWithin_print hv (Nat.le_refl _)] at hread
  have hsorted := depth_le_of_readWithin hread.symm
  rw [← (Value.rearranges_sorted hv).depth_eq] at hsorted
  exact Nat.not_le_of_lt hdepth hsorted

/-- The order of fields has nothing to do with what is written. -/
theorem write_sorted {v : Value} (hv : v.IsDocument) (level : Nat) :
    write level v.sorted = write level v := by
  induction hv generalizing level with
  | null | bool | int | text => rfl
  | list _ ih =>
    rw [Value.sorted, Value.sortedItems_eq_map, write, write, writeItems_eq_map,
      writeItems_eq_map, List.map_map]
    exact congrArg _ (List.map_congr_left fun v hv ↦ ih v hv (level + 1))
  | @object fields _ _ ih =>
    rw [sorted_object, write_object, write_object, sortByName_map, sortByName_sortByName,
      List.map_map]
    refine congrArg _ (List.map_congr_left fun f hf ↦ ?_)
    exact congrArg (fun text ↦ writeField (f.1, text))
      (ih f ((perm_sortByName fields).mem_iff.mp hf) (level + 1))

theorem print_sorted {v : Value} (hv : v.IsDocument) : print v.sorted = print v :=
  congrArg String.ofList (write_sorted hv 0)

end PullRelay.Json
