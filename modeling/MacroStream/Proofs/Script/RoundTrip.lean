import Mathlib.Data.List.Forall2
import Mathlib.Data.List.Nodup
import Mathlib.Data.List.Perm.Basic
import MacroStream.Proofs.Json.Parts
import MacroStream.Proofs.Script.HostBindings
import MacroStream.Proofs.Script.KeyOrders

/-!
# There and back

What the host hands over comes back as it was. Scripts have one kind of table for arrays and
objects, and what tells them apart is this:

* the table of an array is marked, and so it is an array also when it is empty;
* the table of an object has names only. It has no first item, even if a name looks like a number,
  so it is no array; and it lists each of its names once, so its fields come back, in some order,
  and are sorted again (`Json.obj_of_perm`).

`Exchange.toJson_of_image` is an induction over JSON values. In it a value is seen in a later heap,
which has the tables of the value as they were made: all of them lie behind those that were there
before. So no table is met inside itself, and there are enough tables left to be looked through.

Null does not come back as an item or a field, because nil is no entry of a table, and a number that
no integer can hold comes back as a floating-point number: both are excluded by `Json.Plain`.
-/

namespace MacroStream

namespace Json

/-! ### Values that come back -/

/-- What there is to JSON values besides how they are put together: numbers are finite, the fields
of objects are sorted and have distinct names, and the items of an array can be counted. -/
structure WellFormed (j : Json) : Prop where
  finite : ∀ x, j.Contains (.float x) → x.isFinite = true
  sorted : ∀ es, j.Contains (.fields es) → es.Pairwise (·.1 < ·.1)
  counted : ∀ js, j.Contains (.arr js) → js.length < 2 ^ 63

/-- A value contains no null and no whole number that does not fit. -/
structure Plain (j : Json) : Prop where
  not_null : ¬j.Contains .null
  fits : ∀ n, j.Contains (.int n) → fitsInt64 n = true

variable {js : List Json} {es : List (String × Json)} {j : Json} {e : String × Json}

theorem WellFormed.item (h : (arr js).WellFormed) (hj : j ∈ js) : j.WellFormed :=
  ⟨fun x hx ↦ h.finite x (.item hj hx), fun es hes ↦ h.sorted es (.item hj hes),
    fun js hjs ↦ h.counted js (.item hj hjs)⟩

theorem WellFormed.field (h : (fields es).WellFormed) (he : e ∈ es) : e.2.WellFormed :=
  ⟨fun x hx ↦ h.finite x (.field he hx), fun es hes ↦ h.sorted es (.field he hes),
    fun js hjs ↦ h.counted js (.field he hjs)⟩

theorem Plain.item (h : (arr js).Plain) (hj : j ∈ js) : j.Plain :=
  ⟨fun hnull ↦ h.not_null (.item hj hnull), fun n hn ↦ h.fits n (.item hj hn)⟩

theorem Plain.field (h : (fields es).Plain) (he : e ∈ es) : e.2.Plain :=
  ⟨fun hnull ↦ h.not_null (.field he hnull), fun n hn ↦ h.fits n (.field he hn)⟩

/-! ### Fields in another order -/

theorem insertField_perm (k : String) (v : Json) (hk : k ∉ es.map Prod.fst) :
    (insertField k v es).Perm ((k, v) :: es) := by
  induction es with
  | nil => exact .refl _
  | cons e es ih =>
    obtain ⟨k', v'⟩ := e
    rw [List.map_cons, List.mem_cons, not_or] at hk
    rw [insertField, if_neg hk.1]
    split
    · exact .refl _
    · exact ((ih hk.2).cons _).trans (.swap ..)

theorem insertField_sorted (k : String) (v : Json) (hk : k ∉ es.map Prod.fst)
    (hes : es.Pairwise (·.1 < ·.1)) : (insertField k v es).Pairwise (·.1 < ·.1) := by
  induction es with
  | nil => exact List.pairwise_singleton _ _
  | cons e es ih =>
    obtain ⟨k', v'⟩ := e
    obtain ⟨hfirst, hrest⟩ := List.pairwise_cons.1 hes
    rw [List.map_cons, List.mem_cons, not_or] at hk
    rw [insertField, if_neg hk.1]
    split
    case isTrue hlt =>
      refine List.pairwise_cons.2 ⟨fun e he ↦ ?_, hes⟩
      rcases List.mem_cons.1 he with rfl | he
      · exact hlt
      · exact String.lt_trans hlt (hfirst e he)
    case isFalse hnot =>
      have hlt : k' < k := Std.lt_of_le_of_ne (String.not_lt.1 hnot) (Ne.symm hk.1)
      refine List.pairwise_cons.2 ⟨fun e he ↦ ?_, ih hk.2 hrest⟩
      rcases List.mem_cons.1 ((insertField_perm k v hk.2).mem_iff.1 he) with rfl | he
      · exact hlt
      · exact hfirst e he

/-- Fields with distinct names are sorted, whatever order they come in. -/
theorem foldl_insertField {es acc : List (String × Json)}
    (hes : (es.map Prod.fst ++ acc.map Prod.fst).Nodup) (hacc : acc.Pairwise (·.1 < ·.1)) :
    (es.foldl (fun acc (k, v) ↦ insertField k v acc) acc).Perm (es ++ acc) ∧
      (es.foldl (fun acc (k, v) ↦ insertField k v acc) acc).Pairwise (·.1 < ·.1) := by
  induction es generalizing acc with
  | nil => exact ⟨.refl _, hacc⟩
  | cons e es ih =>
    obtain ⟨k, v⟩ := e
    rw [List.map_cons, List.cons_append, List.nodup_cons, List.mem_append, not_or] at hes
    obtain ⟨⟨hnot, hk⟩, hes⟩ := hes
    have hperm := insertField_perm k v hk
    have hnodup : (es.map Prod.fst ++ (insertField k v acc).map Prod.fst).Nodup := by
      rw [((hperm.map Prod.fst).append_left _).nodup_iff, List.map_cons, List.perm_middle.nodup_iff,
        List.nodup_cons, List.mem_append]
      exact ⟨not_or.2 ⟨hnot, hk⟩, hes⟩
    obtain ⟨hall, hsorted⟩ := ih hnodup (insertField_sorted k v hk hacc)
    exact ⟨hall.trans ((hperm.append_left es).trans List.perm_middle), hsorted⟩

/-- The fields of an object in any order give the object. -/
theorem obj_of_perm {es' : List (String × Json)} (hes : es.Pairwise (·.1 < ·.1))
    (hperm : es'.Perm es) : obj es' = fields es := by
  have hnodup : (es.map Prod.fst).Nodup := by
    rw [List.Nodup, List.pairwise_map]
    exact hes.imp fun hlt ↦ Std.ne_of_lt hlt
  have hnodup' : (es'.map Prod.fst ++ ([] : List (String × Json)).map Prod.fst).Nodup := by
    rw [List.map_nil, List.append_nil, (hperm.map Prod.fst).nodup_iff]
    exact hnodup
  obtain ⟨hall, hsorted⟩ := foldl_insertField hnodup' List.Pairwise.nil
  rw [List.append_nil] at hall
  refine congrArg fields (List.Perm.eq_of_pairwise (fun a b _ _ hab hba ↦ ?_) hsorted hes
    (hall.trans hperm))
  exact absurd hba (String.lt_asymm hab)

end Json

namespace Script

/-! ### Tables that are filled -/

namespace Table

variable {t : Table} {ps : List (Key × Value)}

/-- A table with one entry after the other. -/
def fill (t : Table) (ps : List (Key × Value)) : Table := ps.foldl (fun t p ↦ t.set p.1 p.2) t

/-- Entries can be added to a table: their keys are new, and they are not nil. -/
structure Fresh (t : Table) (ps : List (Key × Value)) : Prop where
  nodup : (ps.map Prod.fst ++ t.entries.toList.map Prod.fst).Nodup
  ne_nil : ∀ p ∈ ps, p.2 ≠ .nil

@[simp]
theorem metatable_fill (t : Table) (ps : List (Key × Value)) :
    (t.fill ps).metatable = t.metatable := by
  induction ps generalizing t with
  | nil => rfl
  | cons p ps ih => exact (ih _).trans (metatable_set ..)

theorem Fresh.tail {p : Key × Value} (h : t.Fresh (p :: ps))
    (hperm : (t.set p.1 p.2).entries.toList.Perm (p :: t.entries.toList)) :
    (t.set p.1 p.2).Fresh ps := by
  refine ⟨?_, fun p hp ↦ h.ne_nil p (List.mem_cons_of_mem _ hp)⟩
  rw [((hperm.map Prod.fst).append_left _).nodup_iff, List.map_cons, List.perm_middle.nodup_iff]
  exact h.nodup

/-- What a filled table has. -/
theorem fill_spec (ht : t.entries.Lawful) (h : t.Fresh ps) :
    (t.fill ps).entries.Lawful ∧ (t.fill ps).entries.toList.Perm (ps ++ t.entries.toList) := by
  induction ps generalizing t with
  | nil => exact ⟨ht, .refl _⟩
  | cons p ps ih =>
    have hnodup := h.nodup
    rw [List.map_cons, List.cons_append, List.nodup_cons, List.mem_append, not_or] at hnodup
    have hnone : t.entries.find? p.1 = none := ht.find?_eq_none_iff.2 hnodup.1.2
    obtain ⟨hlawful, hperm⟩ := ht.insert_of_none hnone p.2
    rw [← entries_set (h.ne_nil p List.mem_cons_self) t p.1] at hlawful hperm
    obtain ⟨hlawful', hall⟩ := ih hlawful (h.tail hperm)
    exact ⟨hlawful', hall.trans ((hperm.append_left ps).trans List.perm_middle)⟩

theorem get_fill (ht : t.entries.Lawful) (h : t.Fresh ps) {p : Key × Value} (hp : p ∈ ps) :
    (t.fill ps).get p.1 = p.2 := by
  obtain ⟨hlawful, hperm⟩ := fill_spec ht h
  have hmem : p ∈ (t.fill ps).entries.toList := hperm.mem_iff.2 (List.mem_append_left _ hp)
  rw [get, hlawful.find?_eq_some_iff.2 hmem]
  rfl

/-- A table that is filled with names lists them. -/
theorem listed_fill (ht : t.Listed) (hnames : KeyOrder.Names (ps.map Prod.fst)) (h : t.Fresh ps) :
    (t.fill ps).Listed := by
  induction ps generalizing t with
  | nil => exact ht
  | cons p ps ih =>
    obtain ⟨hk, hnames⟩ := List.forall_mem_cons.1 hnames
    have hnodup := h.nodup
    rw [List.map_cons, List.cons_append, List.nodup_cons, List.mem_append, not_or] at hnodup
    obtain ⟨hlisted, hperm⟩ := ht.set hk hnodup.1.2 (h.ne_nil p List.mem_cons_self)
    exact ih hlisted hnames (h.tail hperm)

end Table

/-! ### What becomes of items and fields -/

namespace Exchange

variable {h h' h₀ : Heap} {a : Nat} {es : List (Key × Json)} {j : Json} {v : Value}
  {path : List Nat}

/-- The entries that a table gets when it is given what becomes of JSON values. -/
def entriesFor (a : Nat) : List (Key × Json) → Heap → List (Key × Value)
  | [], _ => []
  | (k, j) :: rest, h =>
    (k, (ofJson j h).1) :: entriesFor a rest ((ofJson j h).2.rawSet a k (ofJson j h).1)

theorem map_fst_entriesFor (a : Nat) (es : List (Key × Json)) (h : Heap) :
    (entriesFor a es h).map Prod.fst = es.map Prod.fst := by
  induction es generalizing h with
  | nil => rfl
  | cons e es ih => exact congrArg (e.1 :: ·) (ih _)

theorem grew_rawSet_ofJson (ha : a < h.tables.size) (k : Key) (j : Json) :
    Heap.Grew [a] h ((ofJson j h).2.rawSet a k (ofJson j h).1) := by
  have hmade : Heap.Grew [a] h (ofJson j h).2 := (Heap.grew_ofJson j h).mono nofun
  have ha' := Nat.lt_of_lt_of_le ha hmade.size_le
  exact hmade.trans (.rawSet ha' List.mem_cons_self k _) fun _ hmem _ ↦ hmem

theorem table_ofEntries (ha : a < h.tables.size) (es : List (Key × Json)) :
    (ofEntries a es h).table a = (h.table a).fill (entriesFor a es h) := by
  induction es generalizing h with
  | nil => rfl
  | cons e es ih =>
    obtain ⟨k, j⟩ := e
    have hgrew := grew_rawSet_ofJson ha k j
    have hmade := Heap.grew_ofJson j h
    have ha' : a < (ofJson j h).2.tables.size := Nat.lt_of_lt_of_le ha hmade.size_le
    have hset : ((ofJson j h).2.rawSet a k (ofJson j h).1).table a =
        (h.table a).set k (ofJson j h).1 := by
      rw [Heap.table_rawSet ha', if_pos rfl]
      exact congrArg (Table.set · k _) (hmade.table_eq ha List.not_mem_nil)
    rw [ofEntries, ih (Nat.lt_of_lt_of_le ha hgrew.size_le), hset]
    rfl

/-- A value was made of `j` behind the tables of `h`, and `h'` has it as it was made. -/
def MadeBehind (h h' : Heap) (j : Json) (v : Value) : Prop :=
  ∃ made : Heap, h.tables.size ≤ made.tables.size ∧ Heap.Image made h' j v

theorem MadeBehind.of_size_le {h' h'' : Heap} (hv : MadeBehind h' h'' j v)
    (hle : h.tables.size ≤ h'.tables.size) : MadeBehind h h'' j v := by
  obtain ⟨made, hmade, himage⟩ := hv
  exact ⟨made, Nat.le_trans hle hmade, himage⟩

theorem forall₂_entriesFor (ha : a < h.tables.size) (es : List (Key × Json)) :
    List.Forall₂ (fun e p ↦ p.1 = e.1 ∧ MadeBehind h (ofEntries a es h) e.2 p.2) es
      (entriesFor a es h) := by
  induction es generalizing h with
  | nil => exact .nil
  | cons e es ih =>
    obtain ⟨k, j⟩ := e
    have hgrew := grew_rawSet_ofJson ha k j
    have ha₁ := Nat.lt_of_lt_of_le ha hgrew.size_le
    have ha' : a < (ofJson j h).2.tables.size :=
      Nat.lt_of_lt_of_le ha (Heap.grew_ofJson j h).size_le
    rw [ofEntries, entriesFor]
    refine .cons ⟨rfl, h, Nat.le_refl _, ?_⟩ ((ih ha₁).imp fun e p hp ↦
      ⟨hp.1, hp.2.of_size_le hgrew.size_le⟩)
    have hset : Heap.Grew [a] (ofJson j h).2 _ :=
      .rawSet ha' List.mem_cons_self k (ofJson j h).1
    have hold : ∀ a' ∈ [a], a' < h.tables.size := fun a' ha' ↦ List.mem_singleton.1 ha' ▸ ha
    have hrest : Heap.Grew [a] _ (ofEntries a es _) :=
      Heap.grew_ofEntries (fun e _ ↦ Heap.grew_ofJson e.2) ha₁
    exact ((Heap.image_ofJson j h).grew hset hold).grew hrest hold

/-! ### Keys of items -/

theorem ofNat_injOn {n n' : Nat} (hn : n < 2 ^ 63) (hn' : n' < 2 ^ 63)
    (h : Int64.ofNat n = Int64.ofNat n') : n = n' := by
  have hint := congrArg Int64.toInt h
  rw [Int64.toInt_ofNat_of_lt hn, Int64.toInt_ofNat_of_lt hn'] at hint
  exact Int.ofNat.inj hint

theorem add_ofNat_zero (i : Int64) : i + Int64.ofNat 0 = i := Int64.add_zero i

theorem add_one_add_ofNat (i : Int64) (n : Nat) :
    i + 1 + Int64.ofNat n = i + Int64.ofNat (n + 1) := by
  rw [Int64.ofNat_add, Int64.add_assoc, Int64.add_comm (Int64.ofNat n)]
  rfl

theorem map_fst_numbered (i : Int64) (js : List Json) :
    (numbered i js).map Prod.fst =
      (List.range js.length).map fun n ↦ Key.int (i + Int64.ofNat n) := by
  induction js generalizing i with
  | nil => rfl
  | cons j js ih =>
    rw [numbered, List.map_cons, ih, List.length_cons, List.range_succ_eq_map, List.map_cons,
      List.map_map]
    refine congrArg₂ _ ?_ (List.map_congr_left fun n _ ↦ congrArg Key.int (add_one_add_ofNat i n))
    rw [add_ofNat_zero]

theorem map_snd_numbered (i : Int64) (js : List Json) : (numbered i js).map Prod.snd = js := by
  induction js generalizing i with
  | nil => rfl
  | cons j js ih => rw [numbered, List.map_cons, ih]

theorem nodup_numbered {js : List Json} (hjs : js.length < 2 ^ 63) (i : Int64) :
    ((numbered i js).map Prod.fst).Nodup := by
  rw [map_fst_numbered]
  refine List.Nodup.map_on (fun n hn n' hn' h ↦ ?_) List.nodup_range
  rw [List.mem_range] at hn hn'
  exact ofNat_injOn (by omega) (by omega) ((Int64.add_right_inj i).1 (Key.int.inj h))

/-- The number behind the last item. -/
theorem end_not_mem_numbered {js : List Json} (hjs : js.length < 2 ^ 63) (i : Int64) :
    Key.int (i + Int64.ofNat js.length) ∉ (numbered i js).map Prod.fst := by
  rw [map_fst_numbered, List.mem_map]
  rintro ⟨n, hn, h⟩
  rw [List.mem_range] at hn
  have hsame := ofNat_injOn (by omega) hjs ((Int64.add_right_inj i).1 (Key.int.inj h))
  omega

/-- The items of a table are those that stand there one after the other. -/
theorem items_eq {t : Table} {vs : List Value} {fuel : Nat} {i : Int64} (hfuel : vs.length < fuel)
    (hget : ∀ (n : Nat) (hn : n < vs.length), t.getInt (i + Int64.ofNat n) = vs[n])
    (hend : t.getInt (i + Int64.ofNat vs.length) = .nil) (hnil : ∀ v ∈ vs, v ≠ .nil) :
    items t fuel i = vs := by
  induction vs generalizing fuel i with
  | nil =>
    obtain ⟨fuel, rfl⟩ : ∃ n, fuel = n + 1 := ⟨fuel - 1, by omega⟩
    rw [List.length_nil, add_ofNat_zero] at hend
    rw [items, hend]
  | cons v vs ih =>
    obtain ⟨fuel, rfl⟩ : ∃ n, fuel = n + 1 := ⟨fuel - 1, by omega⟩
    obtain ⟨hv, hnil⟩ := List.forall_mem_cons.1 hnil
    have hfirst := hget 0 (Nat.zero_lt_succ _)
    rw [add_ofNat_zero] at hfirst
    have hrest : items t fuel (i + 1) = vs := by
      refine ih (by simpa using hfuel) (fun n hn ↦ ?_) ?_ hnil
      · rw [add_one_add_ofNat, hget (n + 1) (Nat.succ_lt_succ hn)]
        rfl
      · rw [add_one_add_ofNat]
        exact hend
    rw [items, hfirst]
    cases v with
    | nil => exact absurd rfl hv
    | _ => exact congrArg _ hrest

/-! ### Images of containers -/

/-- The entries of the table that is made for a container. -/
def contents (es : List (Key × Json)) (h : Heap) : List (Key × Value) :=
  entriesFor h.tables.size es (h.newTable {}).2

/-- A value became of a part of `whole` when all of `whole` was made in `h₀`, and `h` has it as it
was made. -/
def IsPart (h₀ : Heap) (whole : Json) (h : Heap) (j : Json) (v : Value) : Prop :=
  ∃ made : Heap, h₀.tables.size < made.tables.size ∧
    (made.ofJson j).2.tables.size ≤ (h₀.ofJson whole).2.tables.size ∧ Heap.Image made h j v

/-- What is made for the entries of a container is part of it. -/
theorem forall₂_contents {whole : Json} {es : List (Key × Json)} {h₁ : Heap}
    (hv : Heap.Image h₀ h whole v)
    (hmade : ofEntries h₀.tables.size es (h₀.newTable {}).2 = h₁)
    (hlast : Heap.Grew [h₀.tables.size] h₁ (h₀.ofJson whole).2) :
    List.Forall₂ (fun e p ↦ p.1 = e.1 ∧ IsPart h₀ whole h e.2 p.2) es (contents es h₀) := by
  have hsize : h₀.tables.size < (h₀.newTable {}).2.tables.size := by
    rw [Heap.size_tables_newTable]
    exact Nat.lt_succ_self _
  have hall := forall₂_entriesFor hsize es
  rw [hmade] at hall
  refine hall.imp fun e p ⟨hk, made, hle, himage⟩ ↦ ⟨hk, made, Nat.lt_of_lt_of_le hsize hle, ?_⟩
  have himage' : Heap.Image made (h₀.ofJson whole).2 e.2 p.2 :=
    himage.grew hlast fun a ha ↦ List.mem_singleton.1 ha ▸ Nat.lt_of_lt_of_le hsize hle
  refine ⟨himage'.size_le, himage'.value_eq, ?_, Nat.le_trans himage'.size_le hv.size_le,
    fun hlow hhigh ↦ ?_⟩
  · rw [hv.arrayMeta_eq, ← himage'.arrayMeta_eq, (Heap.grew_ofJson whole h₀).registry_eq]
  · rw [hv.table_eq (by omega) (Nat.lt_of_lt_of_le hhigh himage'.size_le),
      himage'.table_eq hlow hhigh]

theorem image_arr {js : List Json} (hv : Heap.Image h₀ h (.arr js) v) :
    v = .table h₀.tables.size ∧ h₀.tables.size < (h₀.ofJson (.arr js)).2.tables.size ∧
      h.table h₀.tables.size = { ({} : Table).fill (contents (numbered 1 js) h₀) with
        metatable := some h.registry.arrayMeta } ∧
      List.Forall₂ (fun e p ↦ p.1 = e.1 ∧ IsPart h₀ (.arr js) h e.2 p.2) (numbered 1 js)
        (contents (numbered 1 js) h₀) := by
  have hmade := ofJson_arr js h₀
  have hsize : h₀.tables.size < (h₀.newTable {}).2.tables.size := by
    rw [Heap.size_tables_newTable]
    exact Nat.lt_succ_self _
  have hfilled := table_ofEntries hsize (numbered 1 js)
  have hgrew : Heap.Grew [h₀.tables.size] (h₀.newTable {}).2
      (ofEntries h₀.tables.size (numbered 1 js) (h₀.newTable {}).2) :=
    Heap.grew_ofEntries (fun e _ ↦ Heap.grew_ofJson e.2) hsize
  generalize hfill : ofEntries h₀.tables.size (numbered 1 js) (h₀.newTable {}).2 = h₁
    at hmade hfilled hgrew
  have hmark : (h₀.ofJson (.arr js)).2 = mark h₀.tables.size h₁ := congrArg Prod.snd hmade
  have hlt : h₀.tables.size < h₁.tables.size := Nat.lt_of_lt_of_le hsize hgrew.size_le
  have hlt' : h₀.tables.size < (h₀.ofJson (.arr js)).2.tables.size := by
    rw [hmark, mark, Heap.size_tables_modifyTable]
    exact hlt
  refine ⟨hv.value_eq.trans (congrArg Prod.fst hmade), hlt', ?_, forall₂_contents hv hfill ?_⟩
  · rw [hv.table_eq (Nat.le_refl _) hlt', hmark, mark, Heap.table_modifyTable hlt, if_pos rfl,
      hfilled, hv.arrayMeta_eq, hgrew.registry_eq, Heap.table_newTable, if_pos rfl]
    rfl
  · rw [hmark]
    exact .modifyTable hlt List.mem_cons_self _

theorem image_fields {es : List (String × Json)} (hv : Heap.Image h₀ h (.fields es) v) :
    v = .table h₀.tables.size ∧ h₀.tables.size < (h₀.ofJson (.fields es)).2.tables.size ∧
      h.table h₀.tables.size = ({} : Table).fill (contents (named es) h₀) ∧
      List.Forall₂ (fun e p ↦ p.1 = e.1 ∧ IsPart h₀ (.fields es) h e.2 p.2) (named es)
        (contents (named es) h₀) := by
  have hmade := ofJson_fields es h₀
  have hsize : h₀.tables.size < (h₀.newTable {}).2.tables.size := by
    rw [Heap.size_tables_newTable]
    exact Nat.lt_succ_self _
  have hfilled := table_ofEntries hsize (named es)
  have hgrew : Heap.Grew [h₀.tables.size] (h₀.newTable {}).2
      (ofEntries h₀.tables.size (named es) (h₀.newTable {}).2) :=
    Heap.grew_ofEntries (fun e _ ↦ Heap.grew_ofJson e.2) hsize
  have hlast : (h₀.ofJson (.fields es)).2 =
      ofEntries h₀.tables.size (named es) (h₀.newTable {}).2 := congrArg Prod.snd hmade
  have hlt : h₀.tables.size < (h₀.ofJson (.fields es)).2.tables.size := by
    rw [hlast]
    exact Nat.lt_of_lt_of_le hsize hgrew.size_le
  refine ⟨hv.value_eq.trans (congrArg Prod.fst hmade), hlt, ?_, forall₂_contents hv rfl ?_⟩
  · rw [hv.table_eq (Nat.le_refl _) hlt, hlast, hfilled,
      Heap.table_newTable, if_pos rfl]
    rfl
  · rw [hlast]
    exact .refl _

/-! ### Reading back -/

/-- Only null became nil. -/
theorem ne_nil_of_image (hv : Heap.Image h₀ h j v) (hplain : j.Plain) : v ≠ .nil := by
  rw [hv.value_eq, Heap.ofJson]
  cases j with
  | null => exact absurd (.self _) hplain.not_null
  | int n =>
    rw [ofJson, ofWhole]
    split <;> simp
  | arr js => simp [ofJson_arr]
  | fields es => simp [ofJson_fields]
  | _ => simp [ofJson, Value.ofString]

/-- New tables are none of those that were there before. -/
theorem refuseRecursion_of_image (hv : Heap.Image h₀ h j v)
    (hpath : ∀ a ∈ path, a < h₀.tables.size) : refuseRecursion path v = .ok () := by
  have hnew : refuseRecursion path (.table h₀.tables.size) = .ok () := by
    have hnot : path.contains h₀.tables.size = false := by
      rw [← Bool.not_eq_true, List.contains_iff_mem]
      exact fun hmem ↦ Nat.lt_irrefl _ (hpath _ hmem)
    rw [refuseRecursion, hnot]
    rfl
  rw [hv.value_eq, Heap.ofJson]
  cases j with
  | arr js =>
    rw [ofJson_arr]
    exact hnew
  | fields es =>
    rw [ofJson_fields]
    exact hnew
  | int n =>
    rw [ofJson, ofWhole]
    split <;> rfl
  | _ =>
    rw [ofJson]
    rfl

theorem decode?_toUTF8 (s : String) : Text.decode? s.toUTF8 = some s := by
  rw [Text.decode?, String.fromUTF8?]
  exact dif_pos s.isValidUTF8

/-- A value inside the tables of a path is something, and stands for a JSON value. -/
structure Comes (h : Heap) (fuel : Nat) (path : List Nat) (j : Json) (v : Value) : Prop where
  ne_nil : v ≠ .nil
  refuseRecursion_eq : refuseRecursion path v = .ok ()
  toJson_eq : toJson h fuel path v = .ok j

theorem ne_nil_of_forall₂ {fuel : Nat} {es : List (Key × Json)} {ps : List (Key × Value)}
    (hall : List.Forall₂ (fun e p ↦ p.1 = e.1 ∧ Comes h fuel path e.2 p.2) es ps) :
    ∀ p ∈ ps, p.2 ≠ .nil := by
  induction hall with
  | nil => exact List.forall_mem_nil _
  | cons hp _ ih => exact List.forall_mem_cons.2 ⟨hp.2.ne_nil, ih⟩

theorem toItems_eq {fuel : Nat} {js : List Json} {vs : List Value}
    (hall : List.Forall₂ (Comes h fuel path) js vs) : toItems h fuel path vs = .ok js := by
  induction hall with
  | nil => rw [toItems]
  | cons hv _ ih =>
    rw [toItems, hv.refuseRecursion_eq, hv.toJson_eq, ih]
    rfl

theorem toFields_eq {fuel : Nat} {es : List (String × Json)} {ps : List (Value × Value)}
    (hall : List.Forall₂ (fun e p ↦ p.1 = .ofString e.1 ∧ Comes h fuel path e.2 p.2) es ps)
    (isFirst : Bool) : toFields h fuel path isFirst ps = .ok es := by
  induction hall generalizing isFirst with
  | nil => rw [toFields]
  | @cons e p es ps hp _ ih =>
    obtain ⟨k, v⟩ := p
    obtain ⟨rfl, -, hrefuse, hv⟩ := hp
    have hname : keyText h isFirst (.ofString e.1) = .ok e.1 := by
      rw [Value.ofString, keyText, decode?_toUTF8]
    have hkey : refuseRecursion path (.ofString e.1) = .ok () := rfl
    rw [toFields, hkey, hrefuse, hname, hv, ih]
    rfl

theorem toItems_contents {js : List Json} {fuel : Nat}
    (hparts : List.Forall₂ (fun e p ↦ p.1 = e.1 ∧ Comes h fuel path e.2 p.2) (numbered 1 js)
      (contents (numbered 1 js) h₀)) :
    toItems h fuel path ((contents (numbered 1 js) h₀).map Prod.snd) = .ok js := by
  refine toItems_eq ?_
  have hall : List.Forall₂ (Comes h fuel path) ((numbered 1 js).map Prod.snd)
      ((contents (numbered 1 js) h₀).map Prod.snd) := by
    rw [List.forall₂_map_left_iff, List.forall₂_map_right_iff]
    exact hparts.imp fun _ _ hp ↦ hp.2
  rwa [map_snd_numbered] at hall

/-- The table of an array has its items, and nothing behind them. -/
theorem items_contents {js : List Json} {fuel : Nat} (hjs : js.length < 2 ^ 63)
    (hparts : List.Forall₂ (fun e p ↦ p.1 = e.1 ∧ Comes h fuel path e.2 p.2) (numbered 1 js)
      (contents (numbered 1 js) h₀)) (m : Option Nat) :
    items { ({} : Table).fill (contents (numbered 1 js) h₀) with metatable := m }
      ((({} : Table).fill (contents (numbered 1 js) h₀)).entries.size + 1) 1 =
        (contents (numbered 1 js) h₀).map Prod.snd := by
  have hkeys : (contents (numbered 1 js) h₀).map Prod.fst = (numbered 1 js).map Prod.fst :=
    map_fst_entriesFor ..
  have hlength : (contents (numbered 1 js) h₀).length = js.length := by
    rw [← List.length_map (f := Prod.fst), hkeys, map_fst_numbered, List.length_map,
      List.length_range]
  have hend := end_not_mem_numbered hjs 1
  have hnodup := nodup_numbered hjs 1
  have hkey {n : Nat} (hn : n < (contents (numbered 1 js) h₀).length) :
      (contents (numbered 1 js) h₀)[n].1 = .int (1 + Int64.ofNat n) := by
    have hget := congrArg (·[n]?) (hkeys.trans (map_fst_numbered 1 js))
    simpa [hn, hlength ▸ hn] using hget
  have hnil := ne_nil_of_forall₂ hparts
  rw [← hkeys] at hend hnodup
  rw [← hlength] at hend
  generalize contents (numbered 1 js) h₀ = ps at hnil hend hnodup hkey ⊢
  have hfresh : ({} : Table).Fresh ps := ⟨by simpa [KeyMap.toList] using hnodup, hnil⟩
  obtain ⟨hlawful, hperm⟩ := Table.fill_spec KeyMap.lawful_empty hfresh
  refine items_eq ?_ (fun n hn ↦ ?_) ?_ fun v hv ↦ ?_
  · rw [List.length_map, hlawful.size_eq, hperm.length_eq, List.length_append]
    omega
  · rw [List.length_map] at hn
    rw [List.getElem_map, ← Table.get_fill KeyMap.lawful_empty hfresh (List.getElem_mem hn),
      hkey hn]
    rfl
  · rw [List.length_map]
    have hnone : (({} : Table).fill ps).entries.find? (.int (1 + Int64.ofNat ps.length)) =
        none := by
      rw [hlawful.find?_eq_none_iff, (hperm.map Prod.fst).mem_iff]
      simpa [KeyMap.toList] using hend
    exact congrArg (Option.getD · Value.nil) hnone
  · obtain ⟨p, hp, rfl⟩ := List.mem_map.1 hv
    exact hnil p hp

/-- The table of an object gives its fields, in the order in which it lists them. -/
theorem toFields_contents {es : List (String × Json)} {fuel : Nat}
    (hes : es.Pairwise (·.1 < ·.1))
    (hparts : List.Forall₂ (fun e p ↦ p.1 = e.1 ∧ Comes h fuel path e.2 p.2) (named es)
      (contents (named es) h₀)) :
    (({} : Table).fill (contents (named es) h₀)).Listed ∧
      ∃ es', es'.Perm es ∧ toFields h fuel path true
        ((({} : Table).fill (contents (named es) h₀)).toList.map fun (k, v) ↦ (k.toValue, v)) =
          .ok es' := by
  have hkeys : (contents (named es) h₀).map Prod.fst = es.map fun e ↦ textKey e.1 := by
    rw [contents, map_fst_entriesFor, named, List.map_map]
    rfl
  have hnodup : ((contents (named es) h₀).map Prod.fst).Nodup := by
    rw [hkeys, List.Nodup, List.pairwise_map]
    exact hes.imp fun hlt heq ↦ Std.ne_of_lt hlt (textKey_injective heq)
  have hnames : KeyOrder.Names ((contents (named es) h₀).map Prod.fst) := by
    rw [hkeys]
    intro k hk
    obtain ⟨e, -, rfl⟩ := List.mem_map.1 hk
    exact ⟨_, rfl⟩
  have hnil := ne_nil_of_forall₂ hparts
  rw [named, List.forall₂_map_left_iff] at hparts
  change List.Forall₂ _ es (contents (named es) h₀) at hparts
  generalize contents (named es) h₀ = ps at hnil hnodup hnames hparts ⊢
  have hfresh : ({} : Table).Fresh ps := ⟨by simpa [KeyMap.toList] using hnodup, hnil⟩
  have hlisted := Table.listed_fill Table.listed_empty hnames hfresh
  obtain ⟨-, hentries⟩ := Table.fill_spec KeyMap.lawful_empty hfresh
  refine ⟨hlisted, ?_⟩
  have hperm : ps.Perm (({} : Table).fill ps).toList := by
    refine (hlisted.toList_perm.trans (hentries.trans (.of_eq ?_))).symm
    exact List.append_nil ps
  obtain ⟨es', hes', hall⟩ : Relation.Comp List.Perm (List.Forall₂ _) es
      (({} : Table).fill ps).toList := by
    rw [← List.forall₂_comp_perm_eq_perm_comp_forall₂]
    exact ⟨ps, hparts, hperm⟩
  refine ⟨es', hes'.symm, toFields_eq ?_ true⟩
  rw [List.forall₂_map_right_iff]
  exact hall.imp fun _ _ h ↦ ⟨congrArg Key.toValue h.1, h.2⟩

theorem toInt_toInt64 {n : Int} (hn : Json.fitsInt64 n = true) : n.toInt64.toInt = n := by
  rw [Json.fitsInt64, Bool.and_eq_true, decide_eq_true_eq, decide_eq_true_eq] at hn
  exact Int64.toInt_ofInt_of_le (by omega) (by omega)

/-- Parts of a container come if they do when they are looked at one table further in. -/
theorem comes_of_isPart {whole : Json} {fuel : Nat} (hpart : IsPart h₀ whole h j v)
    (hplain : j.Plain) (hpath : ∀ a ∈ path, a < h₀.tables.size)
    (hfuel : (h₀.ofJson whole).2.tables.size ≤ h₀.tables.size + (fuel + 1))
    (ih : ∀ {made : Heap} {path : List Nat} {fuel : Nat}, Heap.Image made h j v →
      (∀ a ∈ path, a < made.tables.size) →
      (made.ofJson j).2.tables.size ≤ made.tables.size + fuel → toJson h fuel path v = .ok j) :
    Comes h fuel (h₀.tables.size :: path) j v := by
  obtain ⟨made, hlt, hle, himage⟩ := hpart
  have hpath' : ∀ a ∈ h₀.tables.size :: path, a < made.tables.size :=
    List.forall_mem_cons.2 ⟨hlt, fun a ha ↦ Nat.lt_trans (hpath a ha) hlt⟩
  exact ⟨ne_nil_of_image himage hplain, refuseRecursion_of_image himage hpath',
    ih himage hpath' (by omega)⟩

/-- **There and back.** A value that the host made is turned into what it was made of. -/
theorem toJson_of_image {fuel : Nat} (hv : Heap.Image h₀ h j v) (hwf : j.WellFormed)
    (hplain : j.Plain) (hpath : ∀ a ∈ path, a < h₀.tables.size)
    (hfuel : (h₀.ofJson j).2.tables.size ≤ h₀.tables.size + fuel) :
    toJson h fuel path v = .ok j := by
  induction j using Json.induction generalizing h₀ v path fuel with
  | null => exact absurd (.self _) hplain.not_null
  | bool b => rw [hv.value_eq, Heap.ofJson, ofJson, toJson]
  | int n =>
    have hfits := hplain.fits n (.self _)
    rw [hv.value_eq, Heap.ofJson, ofJson, ofWhole, if_pos hfits, toJson, toInt_toInt64 hfits]
  | float x =>
    rw [hv.value_eq, Heap.ofJson, ofJson, toJson, Json.ofFloat, if_pos (hwf.finite x (.self _))]
  | str s => rw [hv.value_eq, Heap.ofJson, ofJson, Value.ofString, toJson, decode?_toUTF8]
  | arr js ih =>
    obtain ⟨rfl, hlt, htable, hparts⟩ := image_arr hv
    obtain ⟨fuel, rfl⟩ : ∃ n, fuel = n + 1 := ⟨fuel - 1, by omega⟩
    have hcomes : List.Forall₂ (fun e p ↦ p.1 = e.1 ∧ Comes h fuel (h₀.tables.size :: path) e.2 p.2)
        (numbered 1 js) (contents (numbered 1 js) h₀) := by
      have hall := (List.forall₂_and_left _ _).2 ⟨fun e he ↦ mem_of_mem_numbered he, hparts⟩
      refine hall.imp fun e p h ↦ ⟨h.2.1, ?_⟩
      obtain ⟨he, -, hpart⟩ := h
      exact comes_of_isPart hpart (hplain.item he) hpath hfuel fun hv ↦
        ih e.2 he hv (hwf.item he) (hplain.item he)
    have harray : isArray h h₀.tables.size = true := by
      rw [isArray, isMarked, htable, Bool.or_eq_true]
      exact .inr (beq_self_eq_true _)
    rw [toJson, if_pos harray, htable, items_contents (hwf.counted js (.self _)) hcomes,
      toItems_contents hcomes]
    rfl
  | fields es ih =>
    obtain ⟨rfl, hlt, htable, hparts⟩ := image_fields hv
    obtain ⟨fuel, rfl⟩ : ∃ n, fuel = n + 1 := ⟨fuel - 1, by omega⟩
    have hcomes : List.Forall₂ (fun e p ↦ p.1 = e.1 ∧ Comes h fuel (h₀.tables.size :: path) e.2 p.2)
        (named es) (contents (named es) h₀) := by
      have hall := (List.forall₂_and_left _ _).2 ⟨fun e he ↦ exists_of_mem_named he, hparts⟩
      refine hall.imp fun e p h ↦ ⟨h.2.1, ?_⟩
      obtain ⟨⟨e', he', _, hsame⟩, -, hpart⟩ := h
      rw [← hsame] at hpart ⊢
      exact comes_of_isPart hpart (hplain.field he') hpath hfuel fun hv ↦
        ih e' he' hv (hwf.field he') (hplain.field he')
    obtain ⟨hlisted, es', hperm, hfields⟩ := toFields_contents (hwf.sorted es (.self _)) hcomes
    have hobject : isArray h h₀.tables.size = false := by
      rw [isArray, isMarked, htable, hlisted.length_eq, Table.metatable_fill]
      rfl
    rw [toJson, hobject, htable, hfields]
    exact congrArg Except.ok (Json.obj_of_perm (hwf.sorted es (.self _)) hperm)

end Exchange

/-! ### Values that are handed over -/

theorem Heap.toJson_of_image {h₀ h : Heap} {j : Json} {v : Value} (hv : Image h₀ h j v)
    (hwf : j.WellFormed) (hplain : j.Plain) : h.toJson v = .ok j := by
  have hsize := hv.size_le
  exact Exchange.toJson_of_image hv hwf hplain nofun (by omega)

theorem Heap.toJsonList_append {h : Heap} {before behind : List Value} {js js' : List Json}
    {j : Json} {v : Value} (hbefore : h.toJsonList before = .ok js) (hv : h.toJson v = .ok j)
    (hbehind : h.toJsonList behind = .ok js') :
    h.toJsonList (before ++ v :: behind) = .ok (js ++ j :: js') := by
  induction before generalizing js with
  | nil =>
    obtain rfl := Except.ok.inj hbefore
    rw [List.nil_append, toJsonList, hv, hbehind]
    rfl
  | cons w before ih =>
    rw [toJsonList] at hbefore
    cases hw : h.toJson w with
    | error e =>
      rw [hw] at hbefore
      exact nomatch hbefore
    | ok i =>
      cases hrest : h.toJsonList before with
      | error e =>
        rw [hw, hrest] at hbefore
        exact nomatch hbefore
      | ok is =>
        rw [hw, hrest] at hbefore
        obtain rfl := Except.ok.inj hbefore
        rw [List.cons_append, toJsonList, hw, ih hrest]
        rfl

/-- The heap with one more error of the host. -/
def Heap.withError (h : Heap) (message : String) : Heap := (h.newObject (.hostError message)).2

/-- How an operation goes on with the answer of the host. -/
def Library.afterAnswer (k : List Value → Heap → Heap × Signal) :
    Outcome Json → Heap → Heap × Signal
  | .ok j, h => k [(h.ofJson j).1] (h.ofJson j).2
  | .error e, h => (h.withError e.message, .throw ⟨.userdata h.objects.size, .runtime⟩)

theorem Library.invoke_of_ok {h : Heap} {args : List Value} {js : List Json}
    (hargs : h.toJsonList args = .ok js) (i : Nat) (op : String)
    (k : List Value → Heap → Heap × Signal) :
    invoke i op args k h = (h, .ask (.invoke i op js) (afterAnswer k)) := by
  rw [invoke]
  simp only [Action.bind_apply, Action.read_apply, hargs]
  refine congrArg _ (congrArg _ (funext₂ fun reply h ↦ ?_))
  cases reply <;> rfl

/-- An operation asks the host with what its arguments stand for. -/
theorem invoke_of_toJsonList {h : Heap} {args : List Value} {js : List Json}
    (hargs : h.toJsonList args = .ok js) (i : Nat) (op : String)
    (k : List Value → Heap → Heap × Signal) :
    ∃ reply : Outcome Json → Heap → Heap × Signal,
      Library.invoke i op args k h = (h, .ask (.invoke i op js) reply) ∧
        ∀ j h', reply (.ok j) h' = k [(h'.ofJson j).1] (h'.ofJson j).2 :=
  ⟨_, Library.invoke_of_ok hargs i op k, fun _ _ ↦ rfl⟩

/-- What holds of a JSON value that is handed over to a script and passed back by it. -/
structure ComesBack (j : Json) : Prop where
  /-- An operation that answers it hands over what became of it. -/
  answer : ∀ {h : Heap} {args : List Value} {js : List Json}, h.toJsonList args = .ok js →
    ∀ i op k, ∃ reply : Outcome Json → Heap → Heap × Signal,
      Library.invoke i op args k h = (h, .ask (.invoke i op js) reply) ∧
        ∀ h', ∃ v h'', reply (.ok j) h' = k [v] h'' ∧ Heap.Image h' h'' j v
  /-- A service of this value is what became of it, too. -/
  service : ∀ {h : Heap} {services : List (String × Json)} {name : String},
    h.LawfulAt h.registry.globals → services.reverse.lookup name = some j →
      ∃ made, Heap.Image made (Binding.bindServices (.ofList services) h) j
        ((Binding.bindServices (.ofList services) h).rawGet h.registry.globals (textKey name))
  /-- As long as its tables are as they were made, it comes to an operation as it was, whatever else
  is passed. -/
  argument : ∀ {made h : Heap} {v : Value}, Heap.Image made h j v →
    ∀ {before behind : List Value} {js js' : List Json}, h.toJsonList before = .ok js →
      h.toJsonList behind = .ok js' → ∀ i op k, ∃ reply : Outcome Json → Heap → Heap × Signal,
        Library.invoke i op (before ++ v :: behind) k h =
          (h, .ask (.invoke i op (js ++ j :: js')) reply)

/-- **What is passed back arrives as it was.** Arrays stay arrays and objects stay objects, also
when they are empty or when names look like numbers, and whole numbers stay apart from others,
however deep all of this lies. -/
theorem comesBack_of_plain {j : Json} (hwf : j.WellFormed) (hplain : j.Plain) : ComesBack j := by
  refine ⟨fun hargs i op k ↦ ?_, fun {h services name} hglobals hj ↦ ?_,
    fun {made h v} hv {before behind js js'} hbefore hbehind i op k ↦ ?_⟩
  · obtain ⟨reply, hinvoke, hreply⟩ := invoke_of_toJsonList hargs i op k
    exact ⟨reply, hinvoke, fun h' ↦ ⟨_, _, hreply j h', Heap.image_ofJson j h'⟩⟩
  · have hb := Binding.bindings_bindServices (.empty hglobals) (.ofList services)
    rw [← HostServices.lookup_ofList] at hj
    exact (hb.bound (textKey name)).exists_image hj
  · have hcross := Heap.toJsonList_append hbefore (Heap.toJson_of_image hv hwf hplain) hbehind
    obtain ⟨reply, hinvoke, -⟩ := invoke_of_toJsonList hcross i op k
    exact ⟨reply, hinvoke⟩

/-- An object with names that look like numbers, and empty containers. -/
def nestedJson : Json :=
  .fields [("", .float 1.0), ("1", .arr [.arr [], .fields [], .int 1]), ("2", .str "1")]

theorem comesBack_of_plain_nested :
    nestedJson.WellFormed ∧ nestedJson.Plain ∧ ComesBack nestedJson := by
  have hwf : nestedJson.WellFormed := by
    refine ⟨fun x hx ↦ ?_, fun es hes ↦ ?_, fun js hjs ↦ ?_⟩
    · have hone : x = 1.0 := by simpa [nestedJson] using hx
      rw [hone]
      decide
    · have hcases : es = [("", .float 1.0), ("1", .arr [.arr [], .fields [], .int 1]),
          ("2", .str "1")] ∨ es = [] := by simpa [nestedJson] using hes
      rcases hcases with rfl | rfl
      · simp only [List.pairwise_cons]
        decide
      · exact .nil
    · have hcases : js = [.arr [], .fields [], .int 1] ∨ js = [] := by
        simpa [nestedJson] using hjs
      rcases hcases with rfl | rfl <;> decide
  have hplain : nestedJson.Plain := by
    refine ⟨fun hnull ↦ by simp [nestedJson] at hnull, fun n hn ↦ ?_⟩
    have hone : n = 1 := by simpa [nestedJson] using hn
    rw [hone]
    decide
  exact ⟨hwf, hplain, comesBack_of_plain hwf hplain⟩

end Script

end MacroStream
