import MacroStream.Proofs.Script.HeapGrowth
import MacroStream.Proofs.Script.PlainChunks

/-!
# Heaps that only have more

A function of a script that changes nothing but its own variables leaves a heap in which everything
that was there before is as it was: `Heap.Extends`. Its variables are new, and new variables have
addresses one after the other, so it is known where each of them is.

Of variables that do change it is known what they hold: `Heap.Holds`.
-/

namespace MacroStream.Script

namespace Heap

variable {h h' h'' : Heap} {a b : Nat} {v w : Value} {vs : List Value}

/-! ### Variables -/

theorem cell_eq_getElem? (h : Heap) (a : Nat) : h.cell a = h.cells[a]?.getD .nil :=
  Array.getD_eq_getD_getElem? ..

/-- The new variables hold the values, one after the other. -/
theorem cell_withCells_add (h : Heap) (vs : List Value) (i : Nat) :
    (h.withCells vs.toArray).cell (h.cells.size + i) = vs[i]?.getD .nil := by
  rw [cell_eq_getElem?, withCells, Array.getElem?_append_right (Nat.le_add_right ..),
    Nat.add_sub_cancel_left, List.getElem?_toArray]

theorem cell_setCell_self (ha : a < h.cells.size) : (h.setCell a v).cell a = v := by
  rw [cell_eq_getElem?, setCell, Array.getElem?_setIfInBounds_self, if_pos ha]
  rfl

theorem cell_setCell_of_ne (hab : a ≠ b) : (h.setCell a v).cell b = h.cell b := by
  rw [cell_eq_getElem?, cell_eq_getElem?, setCell, Array.getElem?_setIfInBounds_ne hab]

/-- There is a variable at an address, and it holds a value. -/
def Holds (h : Heap) (a : Nat) (v : Value) : Prop := a < h.cells.size ∧ h.cell a = v

theorem holds_withCells {i : Nat} (h : Heap) (vs : List Value) (hi : vs[i]? = some v) :
    (h.withCells vs.toArray).Holds (h.cells.size + i) v := by
  obtain ⟨hlt, -⟩ := List.getElem?_eq_some_iff.1 hi
  refine ⟨?_, ?_⟩
  · simpa [withCells] using hlt
  · rw [cell_withCells_add, hi]
    rfl

theorem Holds.setCell_self (ha : h.Holds a v) (w : Value) : (h.setCell a w).Holds a w :=
  ⟨by simpa [setCell] using ha.1, cell_setCell_self ha.1⟩

theorem Holds.setCell_of_ne (hb : h.Holds b v) (hab : a ≠ b) (w : Value) :
    (h.setCell a w).Holds b v :=
  ⟨by simpa [setCell] using hb.1, (cell_setCell_of_ne hab).trans hb.2⟩

/-! ### Extensions -/

/-- Everything that is in `h` is in `h'`, too. -/
structure Extends (h h' : Heap) : Prop where
  grew : Grew [] h h'
  running_eq : h'.running = h.running
  cells : ∀ {a v}, h.Holds a v → h'.Holds a v

namespace Extends

theorem trans (hh : h.Extends h') (hh' : h'.Extends h'') : h.Extends h'' :=
  ⟨hh.grew.trans hh'.grew nofun, hh'.running_eq.trans hh.running_eq,
    fun ha ↦ hh'.cells (hh.cells ha)⟩

theorem limit_eq (hh : h.Extends h') : h'.limit = h.limit := hh.grew.limit_eq

theorem used (h : Heap) (u : Nat) : h.Extends { h with used := u } :=
  ⟨⟨rfl, rfl, rfl, Nat.le_refl _, fun _ _ ↦ rfl, id⟩, rfl, id⟩

theorem withCells (h : Heap) (vs : Array Value) : h.Extends (h.withCells vs) := by
  refine ⟨⟨rfl, rfl, rfl, Nat.le_refl _, fun _ _ ↦ rfl, id⟩, rfl, fun {a v} ha ↦ ⟨?_, ?_⟩⟩
  · exact Nat.lt_of_lt_of_le ha.1 (by simp [Heap.withCells])
  · rw [cell_withCells ha.1, ha.2]

theorem newTable (h : Heap) (t : Table) : h.Extends (h.newTable t).2 := ⟨.newTable t h, rfl, id⟩

theorem newFunction (h : Heap) (f : FunctionObject) : h.Extends (h.newFunction f).2 :=
  ⟨.newFunction f h, rfl, id⟩

/-- A variable that was not there may be changed. -/
theorem setCell (hh : h.Extends h') (ha : h.cells.size ≤ a) (v : Value) :
    h.Extends (h'.setCell a v) := by
  have hset : Grew [] h' (h'.setCell a v) := ⟨rfl, rfl, rfl, Nat.le_refl _, fun _ _ ↦ rfl, id⟩
  refine ⟨hh.grew.trans hset nofun, hh.running_eq, fun {b w} hb ↦ ?_⟩
  have hne : a ≠ b := Nat.ne_of_gt (Nat.lt_of_lt_of_le hb.1 ha)
  exact (hh.cells hb).setCell_of_ne hne v

/-- A table that was not there may be changed. -/
theorem modifyTable (hh : h.Extends h') (ha : h.tables.size ≤ a) (ha' : a < h'.tables.size)
    (f : Table → Table) : h.Extends (h'.modifyTable a f) :=
  ⟨hh.grew.trans (.modifyTable ha' List.mem_cons_self f) fun b hb hlt ↦ by
    rw [List.mem_singleton] at hb
    omega, hh.running_eq, hh.cells⟩

theorem rawSet (hh : h.Extends h') (ha : h.tables.size ≤ a) (ha' : a < h'.tables.size) (k : Key)
    (v : Value) : h.Extends (h'.rawSet a k v) :=
  (hh.modifyTable ha ha' (·.set k v)).trans (.used _ (h'.used + 40))

/-- What stands in a table still stands there. -/
theorem rawGet_eq (hh : h.Extends h') {k : Key} (hne : h.rawGet a k ≠ .nil) :
    h'.rawGet a k = h.rawGet a k := by
  have ha : a < h.tables.size := by
    refine Nat.lt_of_not_le fun hle ↦ hne ?_
    rw [rawGet, table_of_size_le hle]
    rfl
  rw [rawGet, rawGet, hh.grew.table_eq ha List.not_mem_nil]

end Extends

end Heap

/-! ### Parameters -/

theorem bindParams_eq (names : List Name) (vs : List Value) (scope : Scope) (h : Heap) :
    Machine.bindParams names vs scope h = ((names.zipIdx h.cells.size).reverse ++ scope,
      h.withCells (Action.adjust names.length vs).toArray) := by
  induction names generalizing vs scope h with
  | nil => simp [Machine.bindParams, Action.adjust, Heap.withCells_empty]
  | cons name names ih =>
    have hcell : h.newCell (vs.headD .nil) =
        (h.cells.size, h.withCells #[vs.headD .nil]) := rfl
    have hsize : (h.withCells #[vs.headD .nil]).cells.size = h.cells.size + 1 := Array.size_push ..
    have hadjust : Action.adjust (name :: names).length vs =
        vs.headD .nil :: Action.adjust names.length (vs.drop 1) := by
      cases vs with
      | nil => simp [Action.adjust, List.replicate_succ]
      | cons => simp [Action.adjust]
    rw [Machine.bindParams, hcell]
    show Machine.bindParams names (vs.drop 1) ((name, h.cells.size) :: scope)
      (h.withCells #[vs.headD .nil]) = _
    rw [ih, hsize, Heap.withCells_withCells, hadjust]
    simp

end MacroStream.Script
