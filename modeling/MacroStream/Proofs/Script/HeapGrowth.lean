import MacroStream.Proofs.Script.KeyMaps
import MacroStream.Script.Exchange

/-!
# What the host adds to a heap

The host adds tables and functions to a heap, and entries to tables that it names. Everything else
stays: `Heap.Grew` lists the tables that may be different, and growths one after the other are a
growth.

What becomes of JSON is new tables only (`grew_ofJson`). So it can be said of a later heap that it
still has them as they were made: that is what `Heap.Image` says. The host never changes them again,
and a script that leaves them alone does not, either.

Items and fields are put into tables in the same way. `Exchange.ofEntries` is both, and what is
proved of it follows the list.
-/

namespace MacroStream

/-! ### Induction on JSON -/

/-- What holds of containers if it holds of all that is in them, and of everything else, holds of
all JSON values. -/
@[elab_as_elim]
theorem Json.induction {P : Json → Prop} (null : P .null) (bool : ∀ b, P (.bool b))
    (int : ∀ n, P (.int n)) (float : ∀ x, P (.float x)) (str : ∀ s, P (.str s))
    (arr : ∀ js, (∀ j ∈ js, P j) → P (.arr js))
    (fields : ∀ es, (∀ e ∈ es, P e.2) → P (.fields es)) (j : Json) : P j :=
  @Json.rec P (fun js ↦ ∀ j ∈ js, P j) (fun es ↦ ∀ e ∈ es, P e.2) (fun e ↦ P e.2)
    null bool int float str arr fields
    nofun (fun _ _ hj hjs ↦ List.forall_mem_cons.2 ⟨hj, hjs⟩)
    nofun (fun _ _ he hes ↦ List.forall_mem_cons.2 ⟨he, hes⟩) (fun _ _ hj ↦ hj) j

namespace Script

theorem textKey_injective : Function.Injective textKey := fun _ _ h ↦
  String.toByteArray_inj.1 (Key.str.inj h)

theorem Heap.setField_eq (h : Heap) (a : Nat) (name : String) (v : Value) :
    h.setField a name v = h.rawSet a (textKey name) v := rfl

/-! ### Tables -/

namespace Table

variable {t : Table}

theorem entries_set_nil (t : Table) (k : Key) : (t.set k .nil).entries = t.entries.erase k := rfl

theorem entries_set {v : Value} (hv : v ≠ .nil) (t : Table) (k : Key) :
    (t.set k v).entries = t.entries.insert k v := by
  cases v with
  | nil => exact absurd rfl hv
  | _ =>
    rw [set.eq_def]
    dsimp only
    split <;> rfl

@[simp]
theorem metatable_set (t : Table) (k : Key) (v : Value) : (t.set k v).metatable = t.metatable := by
  cases v with
  | nil => rfl
  | _ =>
    rw [set.eq_def]
    dsimp only
    split <;> rfl

theorem lawful_set (ht : t.entries.Lawful) (k : Key) (v : Value) : (t.set k v).entries.Lawful := by
  by_cases hv : v = .nil
  · rw [hv, entries_set_nil]
    exact ht.erase k
  · rw [entries_set hv]
    exact ht.insert k v

/-- What a table has under a key is what it was given last. -/
theorem get_set (ht : t.entries.Lawful) (k : Key) (v : Value) (k' : Key) :
    (t.set k v).get k' = if k = k' then v else t.get k' := by
  by_cases hv : v = .nil
  · rw [hv, get, entries_set_nil, ht.find?_erase, get]
    split <;> rfl
  · rw [get, entries_set hv, ht.find?_insert, get]
    split <;> rfl

theorem get_set_self (ht : t.entries.Lawful) (k : Key) (v : Value) : (t.set k v).get k = v := by
  rw [get_set ht, if_pos rfl]

end Table

/-! ### Growth -/

namespace Heap

variable {h h' h'' h₀ : Heap} {changed changed' : List Nat} {a : Nat} {j : Json} {v : Value}

theorem table_of_size_le (ha : h.tables.size ≤ a) : h.table a = {} := by
  rw [table, Array.getD_eq_getD_getElem?, Array.getElem?_eq_none ha]
  rfl

theorem table_newTable (t : Table) (h : Heap) (a : Nat) :
    (h.newTable t).2.table a = if a = h.tables.size then t else h.table a := by
  rw [table, table, newTable, Array.getD_eq_getD_getElem?, Array.getD_eq_getD_getElem?,
    Array.getElem?_push]
  split <;> rfl

theorem table_modifyTable (ha : a < h.tables.size) (f : Table → Table) (a' : Nat) :
    (h.modifyTable a f).table a' = if a = a' then f (h.table a) else h.table a' := by
  rw [table, table, table, modifyTable, Array.getD_eq_getD_getElem?, Array.getD_eq_getD_getElem?,
    Array.getD_eq_getD_getElem?, Array.getElem?_modify]
  split
  case isTrue haa' =>
    rw [← haa', Array.getElem?_eq_getElem ha]
    rfl
  case isFalse => rfl

theorem table_rawSet (ha : a < h.tables.size) (k : Key) (v : Value) (a' : Nat) :
    (h.rawSet a k v).table a' = if a = a' then (h.table a).set k v else h.table a' :=
  table_modifyTable ha (·.set k v) a'

/-- Where there is no table nothing is written. -/
theorem table_rawSet_of_size_le (ha : h.tables.size ≤ a) (k : Key) (v : Value) (a' : Nat) :
    (h.rawSet a k v).table a' = h.table a' := by
  have hsame : (h.tables.modify a (·.set k v))[a']? = h.tables[a']? := by
    rw [Array.getElem?_modify]
    split
    case isTrue heq =>
      rw [← heq, Array.getElem?_eq_none ha]
      rfl
    case isFalse => rfl
  rw [table, table, rawSet, Array.getD_eq_getD_getElem?, Array.getD_eq_getD_getElem?, hsame]

@[simp]
theorem size_tables_newTable (t : Table) (h : Heap) :
    (h.newTable t).2.tables.size = h.tables.size + 1 := Array.size_push _

@[simp]
theorem size_tables_modifyTable (a : Nat) (f : Table → Table) (h : Heap) :
    (h.modifyTable a f).tables.size = h.tables.size := Array.size_modify

@[simp]
theorem size_tables_rawSet (a : Nat) (k : Key) (v : Value) (h : Heap) :
    (h.rawSet a k v).tables.size = h.tables.size := Array.size_modify

/-- There is more in `h'` than in `h`, and of the tables of `h` only those at `changed` may be
different. -/
structure Grew (changed : List Nat) (h h' : Heap) : Prop where
  registry_eq : h'.registry = h.registry
  typeMetas_eq : h'.typeMetas = h.typeMetas
  limit_eq : h'.limit = h.limit
  size_le : h.tables.size ≤ h'.tables.size
  table_eq : ∀ {a}, a < h.tables.size → a ∉ changed → h'.table a = h.table a
  function?_eq : ∀ {a f}, h.function? a = some f → h'.function? a = some f

namespace Grew

theorem refl (h : Heap) : Grew changed h h :=
  ⟨rfl, rfl, rfl, Nat.le_refl _, fun _ _ ↦ rfl, id⟩

/-- Growths one after the other; tables that were not there before do not count. -/
theorem trans (hg : Grew changed h h') (hg' : Grew changed' h' h'')
    (hsub : ∀ a ∈ changed', a < h.tables.size → a ∈ changed) : Grew changed h h'' := by
  refine ⟨hg'.registry_eq.trans hg.registry_eq, hg'.typeMetas_eq.trans hg.typeMetas_eq,
    hg'.limit_eq.trans hg.limit_eq, Nat.le_trans hg.size_le hg'.size_le, fun {a} ha hnot ↦ ?_,
    fun hf ↦ hg'.function?_eq (hg.function?_eq hf)⟩
  have hnot' : a ∉ changed' := fun hmem ↦ hnot (hsub a hmem ha)
  rw [hg'.table_eq (Nat.lt_of_lt_of_le ha hg.size_le) hnot', hg.table_eq ha hnot]

theorem mono (hg : Grew changed h h') (hsub : ∀ a ∈ changed, a < h.tables.size → a ∈ changed') :
    Grew changed' h h' := (refl h).trans hg hsub

theorem newTable (t : Table) (h : Heap) : Grew changed h (h.newTable t).2 := by
  refine ⟨rfl, rfl, rfl, ?_, fun {a} ha _ ↦ ?_, id⟩
  · rw [size_tables_newTable]
    omega
  · rw [table_newTable, if_neg (Nat.ne_of_lt ha)]

theorem newFunction (f : FunctionObject) (h : Heap) : Grew changed h (h.newFunction f).2 := by
  refine ⟨rfl, rfl, rfl, Nat.le_refl _, fun _ _ ↦ rfl, fun {a g} hg ↦ ?_⟩
  obtain ⟨ha, -⟩ := Array.getElem?_eq_some_iff.1 hg
  rw [function?, Heap.newFunction, Array.getElem?_push, if_neg (Nat.ne_of_lt ha)]
  exact hg

theorem modifyTable (ha : a < h.tables.size) (hmem : a ∈ changed) (f : Table → Table) :
    Grew changed h (h.modifyTable a f) := by
  refine ⟨rfl, rfl, rfl, Nat.le_of_eq (size_tables_modifyTable a f h).symm,
    fun {a'} _ hnot ↦ ?_, id⟩
  have hne : a ≠ a' := fun haa' ↦ hnot (haa' ▸ hmem)
  rw [table_modifyTable ha, if_neg hne]

theorem rawSet (ha : a < h.tables.size) (hmem : a ∈ changed) (k : Key) (v : Value) :
    Grew changed h (h.rawSet a k v) := by
  obtain ⟨-, -, -, hsize, htable, hfunction⟩ := modifyTable ha hmem (·.set k v)
  exact ⟨rfl, rfl, rfl, hsize, htable, hfunction⟩

end Grew

end Heap

/-! ### What becomes of JSON -/

namespace Exchange

/-- Gives keys of the table at an address what becomes of JSON values. -/
def ofEntries (a : Nat) : List (Key × Json) → Heap → Heap
  | [], h => h
  | (k, j) :: rest, h => ofEntries a rest ((ofJson j h).2.rawSet a k (ofJson j h).1)

/-- Items with their numbers, counted from `i`. -/
def numbered : Int64 → List Json → List (Key × Json)
  | _, [] => []
  | i, j :: js => (.int i, j) :: numbered (i + 1) js

/-- Fields with the keys for their names. -/
def named (es : List (String × Json)) : List (Key × Json) := es.map fun (k, j) ↦ (textKey k, j)

theorem ofItems_eq (a : Nat) (i : Int64) (js : List Json) (h : Heap) :
    ofItems a i js h = ofEntries a (numbered i js) h := by
  induction js generalizing i h with
  | nil => rw [ofItems, numbered, ofEntries]
  | cons j js ih =>
    rw [ofItems, numbered, ofEntries, ← ih]

theorem ofFields_eq (a : Nat) (es : List (String × Json)) (h : Heap) :
    ofFields a es h = ofEntries a (named es) h := by
  induction es generalizing h with
  | nil =>
    rw [ofFields]
    rfl
  | cons e es ih =>
    obtain ⟨k, j⟩ := e
    have hnamed : named ((k, j) :: es) = (textKey k, j) :: named es := rfl
    rw [ofFields, hnamed, ofEntries, ← ih]
    rfl

theorem exists_of_mem_named {es : List (String × Json)} {e : Key × Json} (he : e ∈ named es) :
    ∃ e' ∈ es, textKey e'.1 = e.1 ∧ e'.2 = e.2 := by
  obtain ⟨e', he', rfl⟩ := List.mem_map.1 he
  exact ⟨e', he', rfl, rfl⟩

theorem mem_of_mem_numbered {i : Int64} {js : List Json} {e : Key × Json}
    (he : e ∈ numbered i js) : e.2 ∈ js := by
  induction js generalizing i with
  | nil => exact nomatch he
  | cons j js ih =>
    rcases List.mem_cons.1 he with rfl | he
    · exact List.mem_cons_self
    · exact List.mem_cons_of_mem _ (ih he)

/-- Marks a table as an array. -/
def mark (a : Nat) (h : Heap) : Heap :=
  h.modifyTable a fun t ↦ { t with metatable := some h.registry.arrayMeta }

theorem ofJson_arr (js : List Json) (h : Heap) :
    ofJson (.arr js) h = (.table h.tables.size,
      mark h.tables.size (ofEntries h.tables.size (numbered 1 js) (h.newTable {}).2)) := by
  rw [ofJson, ← ofItems_eq]
  rfl

theorem ofJson_fields (es : List (String × Json)) (h : Heap) :
    ofJson (.fields es) h =
      (.table h.tables.size, ofEntries h.tables.size (named es) (h.newTable {}).2) := by
  rw [ofJson, ← ofFields_eq]
  rfl

end Exchange

namespace Heap

open Exchange

variable {h h' h₀ : Heap} {changed : List Nat} {a : Nat} {j : Json} {v : Value}

theorem grew_ofEntries {es : List (Key × Json)}
    (hes : ∀ e ∈ es, ∀ h, Grew [] h (Exchange.ofJson e.2 h).2) (ha : a < h.tables.size) :
    Grew [a] h (ofEntries a es h) := by
  induction es generalizing h with
  | nil =>
    rw [ofEntries]
    exact .refl h
  | cons e es ih =>
    obtain ⟨k, j⟩ := e
    obtain ⟨hj, hes⟩ := List.forall_mem_cons.1 hes
    have hmade : Grew [a] h (Exchange.ofJson j h).2 := (hj h).mono nofun
    have ha' : a < (Exchange.ofJson j h).2.tables.size := Nat.lt_of_lt_of_le ha hmade.size_le
    have hset : Grew [a] _ _ := .rawSet ha' List.mem_cons_self k (Exchange.ofJson j h).1
    have hput := hmade.trans hset fun _ hmem _ ↦ hmem
    rw [ofEntries]
    refine hput.trans (ih hes ?_) fun _ hmem _ ↦ hmem
    rw [size_tables_rawSet]
    exact ha'

theorem Grew.mark (hg : Grew [a] h h') (ha : a < h.tables.size) :
    Grew [a] h (Exchange.mark a h') :=
  hg.trans (.modifyTable (Nat.lt_of_lt_of_le ha hg.size_le) List.mem_cons_self _)
    fun _ hmem _ ↦ hmem

/-- JSON becomes new tables, and all others stay as they are. -/
theorem grew_ofJson (j : Json) (h : Heap) : Grew [] h (h.ofJson j).2 := by
  rw [Heap.ofJson]
  induction j using Json.induction generalizing h with
  | null | bool | int | float | str =>
    rw [Exchange.ofJson]
    exact .refl h
  | arr js ih =>
    rw [ofJson_arr]
    have hitems : Grew [h.tables.size] (h.newTable {}).2
        (ofEntries h.tables.size (numbered 1 js) (h.newTable {}).2) :=
      grew_ofEntries (fun e he ↦ ih e.2 (mem_of_mem_numbered he)) (by simp)
    exact (Grew.newTable {} h).trans (hitems.mark (by simp)) (by simp)
  | fields es ih =>
    rw [ofJson_fields]
    have hfields : Grew [h.tables.size] (h.newTable {}).2
        (ofEntries h.tables.size (named es) (h.newTable {}).2) := by
      refine grew_ofEntries (fun e he ↦ ?_) (by simp)
      obtain ⟨e', he', -, hvalue⟩ := exists_of_mem_named he
      exact hvalue ▸ ih e' he'
    exact (Grew.newTable {} h).trans hfields (by simp)

/-- What became of `j` in `h₀` is the value `v`, and `h` has the tables of it as they were made. -/
structure Image (h₀ h : Heap) (j : Json) (v : Value) : Prop where
  value_eq : v = (h₀.ofJson j).1
  arrayMeta_eq : h.registry.arrayMeta = h₀.registry.arrayMeta
  size_le : (h₀.ofJson j).2.tables.size ≤ h.tables.size
  table_eq : ∀ {a}, h₀.tables.size ≤ a → a < (h₀.ofJson j).2.tables.size →
    h.table a = (h₀.ofJson j).2.table a

theorem image_ofJson (j : Json) (h : Heap) : Image h (h.ofJson j).2 j (h.ofJson j).1 :=
  ⟨rfl, congrArg Registry.arrayMeta (grew_ofJson j h).registry_eq, Nat.le_refl _, fun _ _ ↦ rfl⟩

/-- Changes to older tables do not matter. -/
theorem Image.grew (hv : Image h₀ h j v) (hg : Grew changed h h')
    (hold : ∀ a ∈ changed, a < h₀.tables.size) : Image h₀ h' j v := by
  refine ⟨hv.value_eq, ?_, Nat.le_trans hv.size_le hg.size_le, fun {a} hlow hhigh ↦ ?_⟩
  · rw [hg.registry_eq, hv.arrayMeta_eq]
  · have hnot : a ∉ changed := fun hmem ↦ Nat.not_lt.2 hlow (hold a hmem)
    rw [hg.table_eq (Nat.lt_of_lt_of_le hhigh hv.size_le) hnot, hv.table_eq hlow hhigh]

end Heap

end Script

end MacroStream
