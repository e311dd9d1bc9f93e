import MacroStream.Script.Heap

/-!
# Reads from table to table

A script that holds a table can read its entries, those of the tables it finds there, and so on:
`Heap.readPath` follows such a chain of keys. What can be found at the end of some chain is a matter
of the entries of all tables, and these are finitely many: values that stand in the tables only at
certain places, the *gates*, are found only behind these. `Heap.keeps` decides whether they do.

Metatables are left out. They make no difference to a read that finds something.
-/

namespace MacroStream.Script

/-- The key for a text. -/
def textKey (name : String) : Key := .str name.toUTF8

theorem Value.eq_nil_of_isNil {v : Value} (h : v.isNil = true) : v = .nil := by
  cases v with
  | nil => rfl
  | _ => exact nomatch h

/-! ### Entries of maps and tables -/

namespace KeyMap

theorem mem_of_findIn {k : Key} {v : Value} {entries : List (Key × Value)}
    (h : findIn k entries = some v) : (k, v) ∈ entries := by
  induction entries with
  | nil => exact nomatch h
  | cons e entries ih =>
    obtain ⟨k', v'⟩ := e
    rw [findIn] at h
    split at h
    case isTrue hk =>
      obtain rfl := Option.some.inj h
      rw [hk]
      exact List.mem_cons_self
    case isFalse => exact List.mem_cons_of_mem _ (ih h)

/-- What a map finds is one of its entries. -/
theorem mem_toList_of_find? {m : KeyMap} {k : Key} {v : Value} (h : m.find? k = some v) :
    (k, v) ∈ m.toList := by
  have hmem : (k, v) ∈ m.buckets.getD (m.slot k) [] := mem_of_findIn h
  rw [Array.getD_eq_getD_getElem?] at hmem
  cases hb : m.buckets[m.slot k]? with
  | none => simp [hb] at hmem
  | some bucket =>
    rw [hb, Option.getD_some] at hmem
    exact List.mem_flatten.2 ⟨bucket, Array.mem_def.1 (Array.mem_of_getElem? hb), hmem⟩

end KeyMap

theorem Table.mem_of_get {t : Table} {k : Key} (h : t.get k ≠ .nil) :
    (k, t.get k) ∈ t.entries.toList := by
  rw [Table.get] at h ⊢
  cases hk : t.entries.find? k with
  | none => exact absurd (by rw [hk]; rfl) h
  | some v => exact KeyMap.mem_toList_of_find? hk

namespace Heap

/-- All entries of all tables, with the addresses of the tables. -/
def entries (h : Heap) : List (Nat × Key × Value) :=
  h.tables.toList.zipIdx.flatMap fun (t, a) ↦ t.entries.toList.map fun e ↦ (a, e)

theorem mem_entries_of_rawGet {h : Heap} {a : Nat} {k : Key} (hv : h.rawGet a k ≠ .nil) :
    (a, k, h.rawGet a k) ∈ h.entries := by
  have hmem : (k, h.rawGet a k) ∈ (h.table a).entries.toList := Table.mem_of_get hv
  rw [table, Array.getD_eq_getD_getElem?] at hmem
  cases ht : h.tables[a]? with
  | none =>
    -- An address without a table is read as an empty one.
    rw [ht] at hmem
    exact absurd hmem (by simp [KeyMap.toList])
  | some t =>
    rw [ht, Option.getD_some] at hmem
    have hzip : (t, a) ∈ h.tables.toList.zipIdx := by
      rw [List.mem_zipIdx_iff_getElem?]
      simpa using ht
    exact List.mem_flatMap.2 ⟨(t, a), hzip, List.mem_map.2 ⟨_, hmem, rfl⟩⟩

/-! ### Chains of reads -/

/-- What is found behind a chain of keys; nil if there is no table to read on. -/
def readPath (h : Heap) : Value → List Key → Value
  | v, [] => v
  | .table a, k :: ks => h.readPath (h.rawGet a k) ks
  | _, _ :: _ => .nil

theorem readPath_append (h : Heap) (v : Value) (ks ks' : List Key) :
    h.readPath v (ks ++ ks') = h.readPath (h.readPath v ks) ks' := by
  induction ks generalizing v with
  | nil => rw [List.nil_append, readPath]
  | cons k ks ih =>
    cases v with
    | table a => exact ih _
    | _ => cases ks' <;> rfl

/-- The last read of a chain. -/
theorem readPath_concat (h : Heap) (v : Value) (ks : List Key) (k : Key) :
    h.readPath v (ks ++ [k]) =
      match h.readPath v ks with
      | .table a => h.rawGet a k
      | _ => .nil := by
  rw [readPath_append]
  cases h.readPath v ks <;> rfl

/-- The values of a class stand in tables at gates only. -/
def keeps (h : Heap) (inClass : Value → Bool) (gate : Nat → Key → Bool) : Bool :=
  h.entries.all fun (a, k, v) ↦ !inClass v || gate a k

/-- A value that stands at gates only is found behind gates only. -/
theorem exists_gate_of_readPath {h : Heap} {inClass : Value → Bool} {gate : Nat → Key → Bool}
    (hkeeps : h.keeps inClass gate = true) (hnil : inClass .nil = false) {v : Value}
    (hv : inClass v = false) {path : List Key} (hpath : inClass (h.readPath v path) = true) :
    ∃ ks k a, path = ks ++ [k] ∧ h.readPath v ks = .table a ∧ gate a k = true := by
  rcases List.eq_nil_or_concat path with rfl | ⟨ks, k, rfl⟩
  · exact absurd hpath (by simp [readPath, hv])
  · rw [List.concat_eq_append, readPath_concat] at hpath
    cases htable : h.readPath v ks with
    | table a =>
      rw [htable] at hpath
      -- Something was found, so there is an entry, and the check has seen it.
      have hne : h.rawGet a k ≠ .nil := fun hn ↦ by simp [hn, hnil] at hpath
      have hentry := List.all_eq_true.1 hkeeps _ (mem_entries_of_rawGet hne)
      have hgate : gate a k = true := by simpa [hpath] using hentry
      exact ⟨ks, k, a, List.concat_eq_append, htable, hgate⟩
    | _ =>
      rw [htable] at hpath
      exact absurd hpath (by simp [hnil])

end Heap

end MacroStream.Script
