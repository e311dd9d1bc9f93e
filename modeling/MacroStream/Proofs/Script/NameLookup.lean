import MacroStream.Proofs.Script.Evaluation
import MacroStream.Proofs.Script.InterpolationTrees

/-!
# Looking names up on the stack

The function that is asked for names that an expression in a string does not find among its global
variables. It asks `getinfo` for one function on the stack after the other, and `getlocal` for all
the variables of each. It begins at a level that is the same for every expression. Among the
variables of a function the last one with the name counts, since it is the innermost one. Where no
function on the stack has one, the global variable is the answer.

`Heap.visible?` says what is found, without running anything. Two loops lead to it, the one over the
variables of a function inside the one over the functions. For each there is a lemma about one turn,
and one about all of them by induction on what is left to be looked at (`reaches_variableLoop`,
`reaches_levelLoop`).
-/

namespace MacroStream.Script

variable {limit : Nat} {P : Turn → Prop} {h : Heap}

/-! ### What a name denotes on a stack -/

/-- The address of the newest variable with a name. -/
def latest? (x : Name) (vars : List (Name × Nat)) : Option Nat :=
  (vars.reverse.find? fun var ↦ var.1 = x).map Prod.snd

theorem latest?_concat (x y : Name) (a : Nat) (vars : List (Name × Nat)) :
    latest? x (vars ++ [(y, a)]) = if y = x then some a else latest? x vars := by
  rw [latest?, List.reverse_concat, List.find?_cons]
  by_cases hy : y = x <;> simp [hy, latest?]

theorem mem_of_latest? {x : Name} {vars : List (Name × Nat)} {a : Nat}
    (ha : latest? x vars = some a) : (x, a) ∈ vars := by
  obtain ⟨var, hvar, rfl⟩ := Option.map_eq_some_iff.1 ha
  have hname := List.find?_some hvar
  obtain rfl : var.1 = x := of_decide_eq_true hname
  exact List.mem_reverse.1 (List.mem_of_find?_eq_some hvar)

/-- The value of the newest variable with a name in the innermost function that has one. The search
ends where the program that the script runs for is called from. -/
def Heap.visible? (h : Heap) (x : Name) : List Frame → Option Value
  | [] => none
  | f :: below =>
    if f.function.isNil then none
    else
      match latest? x f.view.locals with
      | some a => some (h.cell a)
      | none => h.visible? x below

/-! ### Looks at functions -/

section Looks

variable {m : Nat → Machine} {n : Nat}

theorem getinfo_apply (hn : n < 2 ^ 63) (k : List Value → Heap → Heap × Signal) :
    Library.getinfo [.int (Int64.ofNat n), .str "".toUTF8] k h =
      Library.viewOf h.running n (fun found h ↦ match found with
        | none => k [.nil] h
        | some _ => k [.table h.tables.size] (h.newTable {}).2) h := by
  have hlevel : Action.arg [.int (Int64.ofNat n), .str "".toUTF8] 1 = .int (Int64.ofNat n) := rfl
  have hwhat : Action.arg [.int (Int64.ofNat n), .str "".toUTF8] 2 = .str "".toUTF8 := rfl
  have hletters : "".toUTF8.data.toList.map (fun b ↦ Char.ofNat b.toNat) = [] := by decide
  rw [Library.getinfo, Action.bind_apply, targetThread_of_arg hlevel]
  simp only [Nat.zero_add, hlevel, optBytes_of_arg hwhat, needInt_of_arg hlevel, Action.bind_apply,
    Action.pure_apply, hletters, List.contains_nil, Bool.false_eq_true, if_false, Value.isFunction,
    int64_ofNat_nonneg hn, toNatClampNeg_ofNat hn, List.any_nil, List.flatMap_nil]
  refine congrArg (fun next ↦ (h, Signal.view h.running n next))
    (funext fun found ↦ funext fun h ↦ ?_)
  cases found <;> rfl

/-- A look for a function at a level answers a new table, or nil if there is none. -/
theorem does_getinfo {Q : List Value → Heap → Prop} {found : Option FrameView} (hn : n < 2 ^ 63)
    (hview : ∀ line, (m line).view h h.running n = found)
    (hnone : found = none → Q [.nil] h)
    (hsome : ∀ v, found = some v → Q [.table h.tables.size] (h.newTable {}).2) :
    (Library.runPrimitive (.debug .getinfo) [.int (Int64.ofNat n), .str "".toUTF8]).Does limit m h
      Q := by
  intro P k hk line
  show ((m line).tell (Library.getinfo _ k h)).Reaches limit P
  rw [getinfo_apply hn]
  refine Action.does_viewOf (Q := fun v h' ↦ v = found ∧ h' = h) (fun line ↦ ⟨hview line, rfl⟩) P _
    ?_ line
  rintro line v _ ⟨rfl, rfl⟩
  cases v with
  | none => exact hk line _ _ (hnone rfl)
  | some v => exact hk line _ _ (hsome v rfl)

theorem getlocal_apply {j : Nat} (hn : n < 2 ^ 63) (hj : j + 1 < 2 ^ 63)
    (k : List Value → Heap → Heap × Signal) :
    Library.getlocal [.int (Int64.ofNat n), .int (Int64.ofNat (j + 1))] k h =
      Library.viewOf h.running n (fun found h ↦ match found with
        | none => Action.badArgument 1 "level out of range" k h
        | some v => match v.locals[j]? with
          | some var => k [.str var.1, h.cell var.2] h
          | none => k [.nil] h) h := by
  have hlevel : Action.arg [.int (Int64.ofNat n), .int (Int64.ofNat (j + 1))] 1 =
      .int (Int64.ofNat n) := rfl
  have hnumber : Action.arg [.int (Int64.ofNat n), .int (Int64.ofNat (j + 1))] 2 =
      .int (Int64.ofNat (j + 1)) := rfl
  have hpos : 0 < Int64.ofNat (j + 1) := by
    rw [Int64.lt_iff_toInt_lt, Int64.toInt_ofNat_of_lt hj]
    simp
  have hlocal (v : FrameView) : Library.localAt v (Int64.ofNat (j + 1)) =
      (v.locals[j]?).map fun var ↦ (var.1, some var.2, .nil) := by
    rw [Library.localAt, if_pos hpos, toNatClampNeg_ofNat hj, Nat.add_sub_cancel]
  rw [Library.getlocal, Action.bind_apply, targetThread_of_arg hlevel]
  simp only [Nat.zero_add, hlevel, needInt_of_arg hlevel, needInt_of_arg hnumber,
    Action.bind_apply, Action.pure_apply, Bool.false_eq_true, if_false, Value.isFunction,
    int64_ofNat_nonneg hn, toNatClampNeg_ofNat hn, hlocal]
  refine congrArg (fun next ↦ (h, Signal.view h.running n next))
    (funext fun found ↦ funext fun h ↦ ?_)
  cases found with
  | none => rfl
  | some v =>
    simp only
    cases v.locals[j]? <;> rfl

/-- A look for a variable answers its name and its value, or nil if there is none. -/
theorem does_getlocal {Q : List Value → Heap → Prop} {v : FrameView} {j : Nat} (hn : n < 2 ^ 63)
    (hj : j + 1 < 2 ^ 63) (hview : ∀ line, (m line).view h h.running n = some v)
    (hnone : v.locals[j]? = none → Q [.nil] h)
    (hsome : ∀ var, v.locals[j]? = some var → Q [.str var.1, h.cell var.2] h) :
    (Library.runPrimitive (.debug .getlocal)
      [.int (Int64.ofNat n), .int (Int64.ofNat (j + 1))]).Does limit m h Q := by
  intro P k hk line
  show ((m line).tell (Library.getlocal _ k h)).Reaches limit P
  rw [getlocal_apply hn hj]
  refine Action.does_viewOf (Q := fun v' h' ↦ v' = some v ∧ h' = h)
    (fun line ↦ ⟨hview line, rfl⟩) P _ ?_ line
  rintro line _ _ ⟨rfl, rfl⟩
  simp only
  cases hvar : v.locals[j]? with
  | none => exact hk line _ _ (hnone hvar)
  | some var => exact hk line _ _ (hsome var hvar)

theorem does_rawget {Q : List Value → Heap → Prop} {a : Nat} {x : Name}
    (hQ : Q [h.rawGet a (.str x)] h) :
    (Library.runPrimitive (.base .rawget) [.table a, .str x]).Does limit m h Q :=
  Action.does_of_eq (fun _ ↦ (rfl)) hQ

end Looks

/-! ### The function that looks a name up -/

/-- The captured variables of the function that looks a name up hold what the chunk gave them. -/
structure Heap.CanLookUp (h : Heap) (captured : Array Nat) (g : Nat) : Prop where
  level : h.Holds (captured.getD 0 0) (.int (Int64.ofNat 6))
  getinfo : h.Holds (captured.getD 1 0) (.primitive (.debug .getinfo))
  getlocal : h.Holds (captured.getD 2 0) (.primitive (.debug .getlocal))
  rawget : h.Holds (captured.getD 3 0) (.primitive (.base .rawget))
  globals : h.Holds (captured.getD 4 0) (.table g)
  globals_lt : g < h.tables.size

theorem Heap.CanLookUp.mono {h h' : Heap} {captured : Array Nat} {g : Nat}
    (hlook : h.CanLookUp captured g) (hh : h.Extends h') : h'.CanLookUp captured g :=
  ⟨hh.cells hlook.level, hh.cells hlook.getinfo, hh.cells hlook.getlocal, hh.cells hlook.rawget,
    hh.cells hlook.globals, Nat.lt_of_lt_of_le hlook.globals_lt hh.grew.size_le⟩

/-- What can be known of a function on a stack. -/
def viewAt? (fs : List Frame) (n : Nat) : Option FrameView :=
  fs[n]?.bind fun f ↦ if f.function.isNil then none else some f.view

/-- Levels count the library function that looks, and the function that called it. -/
theorem view_eq_viewAt? (m : Machine) (library top : Frame) (below : List Frame) (n : Nat) :
    Machine.view { m with frames := library :: top :: below } h h.running (n + 2) =
      viewAt? below n := by
  have hframes : Machine.framesOf { m with frames := library :: top :: below } h h.running =
      library :: top :: below := if_pos rfl
  rw [Machine.view, hframes, viewAt?, List.getElem?_cons_succ, List.getElem?_cons_succ]
  cases below[n]? <;> rfl

/-- Of the variables of a function those in `seen` have been looked at. Whether one was found, its
value and the number of the next one are in the variables that are the first new ones since `h₁`. -/
structure Heap.Searched (h₁ h : Heap) (x : Name) (seen : List (Name × Nat)) : Prop where
  old : h₁.Extends h
  found : h.Holds h₁.cells.size (.bool (latest? x seen).isSome)
  value : h.Holds (h₁.cells.size + 1) (((latest? x seen).map h₁.cell).getD .nil)
  next : h.Holds (h₁.cells.size + 2) (.int (Int64.ofNat (seen.length + 1)))

namespace Heap.Searched

variable {h₁ h h' : Heap} {x y : Name} {a : Nat} {seen : List (Name × Nat)}

theorem mono (hs : h₁.Searched h x seen) (hh : h.Extends h') : h₁.Searched h' x seen :=
  ⟨hs.old.trans hh, hh.cells hs.found, hh.cells hs.value, hh.cells hs.next⟩

/-- What is done where a variable has the name. -/
theorem hit (hs : h₁.Searched h x seen) (a : Nat) :
    h₁.Searched (((h.setCell (h₁.cells.size + 1) (h₁.cell a)).setCell h₁.cells.size
      (.bool true)).setCell (h₁.cells.size + 2) (.int (Int64.ofNat (seen.length + 2)))) x
        (seen ++ [(x, a)]) := by
  refine ⟨((hs.old.setCell (by omega) _).setCell (Nat.le_refl _) _).setCell (by omega) _, ?_, ?_,
    ?_⟩
  · rw [latest?_concat, if_pos rfl]
    exact ((hs.found.setCell_of_ne (by omega) _).setCell_self _).setCell_of_ne (by omega) _
  · rw [latest?_concat, if_pos rfl]
    exact ((hs.value.setCell_self _).setCell_of_ne (by omega) _).setCell_of_ne (by omega) _
  · rw [List.length_append]
    exact ((hs.next.setCell_of_ne (by omega) _).setCell_of_ne (by omega) _).setCell_self _

/-- What is done where a variable has another name. -/
theorem miss (hs : h₁.Searched h x seen) (hy : y ≠ x) (a : Nat) :
    h₁.Searched (h.setCell (h₁.cells.size + 2) (.int (Int64.ofNat (seen.length + 2)))) x
      (seen ++ [(y, a)]) := by
  refine ⟨hs.old.setCell (by omega) _, ?_, ?_, ?_⟩
  · rw [latest?_concat, if_neg hy]
    exact hs.found.setCell_of_ne (by omega) _
  · rw [latest?_concat, if_neg hy]
    exact hs.value.setCell_of_ne (by omega) _
  · rw [List.length_append]
    exact hs.next.setCell_self _

end Heap.Searched

section Lookup

open Interpolation

variable {r : Running} {g n l : Nat} {x : Name} {scope : Scope} {control : List Control}

theorem does_levelCondition {Q : Value → Heap → Prop}
    (hlook : h.CanLookUp r.activation.captured g)
    (hslots : r.frame.slots + Machine.librarySlots ≤ Machine.slotLimit)
    (hlevel : h.Holds l (.int (Int64.ofNat (n + 2)))) (hn : n + 2 < 2 ^ 63)
    (hnone : viewAt? r.below n = none → Q (.bool false) h)
    (hsome : ∀ v, viewAt? r.below n = some v → Q (.bool true) (h.newTable {}).2) :
    (Action.first (Action.eval (r.context (("level".toUTF8, l) :: scope)) levelCondition)).Does
      limit (r.machineAt (("level".toUTF8, l) :: scope) control) h Q := by
  have hcall : (Action.call (.primitive (.debug .getinfo))
      [.int (Int64.ofNat (n + 2)), .str "".toUTF8] ⟨15, some ("upvalue", "getinfo".toUTF8)⟩).Does
        limit (r.machineAt (("level".toUTF8, l) :: scope) control) h
        fun vs h' ↦ Q (.bool (!(vs.headD .nil).isNil)) h' := by
    refine Machine.does_call_primitive (fun _ ↦ rfl) hslots fun line pending ↦ ?_
    exact does_getinfo hn (fun _ ↦ view_eq_viewAt? ..) hnone hsome
  have hinfo (k : List Value → Heap → Heap × Signal) : Action.eval
      (r.context (("level".toUTF8, l) :: scope)) (.captured "getinfo".toUTF8 1) k h =
        k [.primitive (.debug .getinfo)] h := by
    rw [← hlook.getinfo.2, Action.eval]
    rfl
  have hargs (k : List Value → Heap → Heap × Signal) : Action.evalList
      (r.context (("level".toUTF8, l) :: scope)) [.scope "level".toUTF8 0, .str "".toUTF8] k h =
        k [.int (Int64.ofNat (n + 2)), .str "".toUTF8] h := by
    rw [← hlevel.2]
    simp only [Action.evalList, Action.eval]
    rfl
  rw [levelCondition, Action.eval]
  refine Action.Does.first ?_
  show (Action.first _ >>= _ : Action (List Value)).Does _ _ _ _
  have hleft : (Action.first (Action.eval (r.context (("level".toUTF8, l) :: scope)) _)).Does limit
      (r.machineAt (("level".toUTF8, l) :: scope) control) h fun v h' ↦ Q (.bool (!v.isNil)) h' :=
    Action.Does.first (does_eval_call hinfo hargs hcall)
  refine hleft.bind fun v h' hv ↦ ?_
  have hQ : Q (List.headD [.bool (!v.isNil)] .nil) h' := hv
  refine Action.does_of_eq (fun k ↦ ?_) hQ
  simp only [Action.eval, Action.binary, BinaryOp.isComparison, Action.compare, Action.bind_apply,
    Action.first_apply, Action.pure_apply, List.headD_cons, equal_nil, if_true]

/-- The variables of the function while it looks at those of another one. -/
def searchScope (h₁ : Heap) (l name unused : Nat) : Scope :=
  [("i".toUTF8, h₁.cells.size + 2), ("value".toUTF8, h₁.cells.size + 1),
    ("found".toUTF8, h₁.cells.size), ("level".toUTF8, l), ("name".toUTF8, name),
    ("_".toUTF8, unused)]

/-- The scope in which one variable is looked at. -/
def variableScope (h₁ : Heap) (l name unused n : Nat) : Scope :=
  ("local_value".toUTF8, n + 1) :: ("local_name".toUTF8, n) :: searchScope h₁ l name unused

section Variables

variable {h₁ : Heap} {seen : List (Name × Nat)} {name unused : Nat}

/-- The statements that look at a variable, behind the first `k`. -/
def variableControl (h₁ : Heap) (l name unused k : Nat) (control : List Control) : List Control :=
  .block (variableBlock.statements.drop k) variableBlock (searchScope h₁ l name unused) [] ::
    .whileLoop .true variableBlock :: control

/-- The number of the variable is counted up, and the next one is looked at. -/
theorem reaches_count {n : Nat} (hlimit : h.limit = limit)
    (hi : h.Holds (h₁.cells.size + 2) (.int (Int64.ofNat (seen.length + 1))))
    (hgo : ∀ u, r.Reaches limit P (searchScope h₁ l name unused)
      (.whileLoop .true variableBlock :: control) .next
      { h.setCell (h₁.cells.size + 2) (.int (Int64.ofNat (seen.length + 2))) with used := u }) :
    r.Reaches limit P (variableScope h₁ l name unused n)
      (variableControl h₁ l name unused 3 control) .next h := by
  refine Running.reaches_next hlimit fun u ↦
    Action.does_of_eq (exec_count (n := seen.length + 1) ?_) ?_
  · exact hi.2
  · exact Running.reaches_blockEnd fun u ↦ hgo u

/-- A variable is remembered if it has the name. -/
theorem reaches_compareName {n a : Nat} {y : Name} (hlimit : h₁.limit = limit)
    (hsearched : h₁.Searched h x seen)
    (hname : h₁.Holds name (.str x)) (hfirst : h.Holds n (.str y))
    (hsecond : h.Holds (n + 1) (h₁.cell a))
    (hgo : ∀ h', h₁.Searched h' x (seen ++ [(y, a)]) →
      r.Reaches limit P (searchScope h₁ l name unused) (.whileLoop .true variableBlock :: control)
        .next h') :
    r.Reaches limit P (variableScope h₁ l name unused n)
      (variableControl h₁ l name unused 2 control) .next h := by
  have hlimit' : h.limit = limit := hsearched.old.limit_eq.trans hlimit
  refine Running.reaches_next hlimit' fun u ↦
    does_if (eval_eq_str hfirst.2 (hsearched.old.cells hname).2) ?_
  by_cases hy : y = x
  · subst hy
    rw [decide_eq_true rfl, if_pos rfl]
    refine Running.reaches_enter (Running.reaches_next hlimit' fun u ↦ ?_)
    have hassign (h : Heap) (hv : h.cell (n + 1) = h₁.cell a)
        (k : Effect → Heap → Heap × Signal) : Action.exec
        (r.context (variableScope h₁ l name unused n))
        (.assign [.scope 4, .scope 3] [.true, .scope "local_value".toUTF8 0] 22) k h =
          k .next ((h.setCell (h₁.cells.size + 1) (h₁.cell a)).setCell h₁.cells.size
            (.bool true)) := by
      rw [← hv, Action.exec]
      · rfl
      · simp
    refine Action.does_of_eq (hassign _ hsecond.2) (Running.reaches_blockEnd fun u ↦ ?_)
    have hnext := (hsearched.next.setCell_of_ne (show h₁.cells.size + 1 ≠ _ by omega)
      (h₁.cell a)).setCell_of_ne (show h₁.cells.size ≠ _ by omega) (.bool true)
    exact reaches_count hlimit' hnext fun u ↦ hgo _ ((hsearched.hit a).mono (.used _ u))
  · rw [decide_eq_false hy, if_neg Bool.false_ne_true]
    refine Running.reaches_enter (Running.reaches_blockEnd fun u ↦ ?_)
    exact reaches_count hlimit' hsearched.next fun u ↦
      hgo _ ((hsearched.miss hy a).mono (.used _ u))

/-- Behind the last variable the search ends. -/
theorem reaches_noVariable {n : Nat} (hlimit : h.limit = limit) (hfirst : h.Holds n .nil)
    (hgo : ∀ u, r.Reaches limit P (searchScope h₁ l name unused) control .next
      { h with used := u }) :
    r.Reaches limit P (variableScope h₁ l name unused n)
      (variableControl h₁ l name unused 1 control) .next h := by
  refine Running.reaches_next hlimit fun u ↦ does_if (eval_eq_nil hfirst.2) ?_
  refine Running.reaches_enter (Running.reaches_next hlimit fun u ↦ ?_)
  have hbreak : Action.exec (r.context (variableScope h₁ l name unused n)) .break =
      pure .leaveLoop := by
    rw [Action.exec]
  rw [hbreak]
  refine Action.does_pure (Running.reaches_leaveLoop_block fun u ↦ ?_)
  exact Running.reaches_leaveLoop_block fun u ↦ Running.reaches_leaveLoop fun u ↦ hgo u

section Loop

variable {v : FrameView} {n : Nat}

/-- The search asks for the next variable. -/
theorem reaches_getlocal (hlimit : h₁.limit = limit)
    (hlook : h₁.CanLookUp r.activation.captured g)
    (hslots : r.frame.slots + Machine.librarySlots ≤ Machine.slotLimit)
    (hview : viewAt? r.below n = some v) (hn : n + 2 < 2 ^ 63)
    (hlevel : h₁.Holds l (.int (Int64.ofNat (n + 2))))
    (hsearched : h₁.Searched h x seen) (hcount : seen.length + 1 < 2 ^ 63)
    (hnone : v.locals[seen.length]? = none → ∀ h' n, h₁.Searched h' x seen → h'.Holds n .nil →
      r.Reaches limit P (variableScope h₁ l name unused n)
        (variableControl h₁ l name unused 1 control) .next h')
    (hsome : ∀ var, v.locals[seen.length]? = some var → ∀ h' n, h₁.Searched h' x seen →
      h'.Holds n (.str var.1) → h'.Holds (n + 1) (h.cell var.2) →
      r.Reaches limit P (variableScope h₁ l name unused n)
        (variableControl h₁ l name unused 1 control) .next h') :
    r.Reaches limit P (searchScope h₁ l name unused) (.whileLoop .true variableBlock :: control)
      .next h := by
  have hlimit' : h.limit = limit := hsearched.old.limit_eq.trans hlimit
  have htrue (c : Context) : Action.eval c .true = pure [.bool true] := by
    rw [Action.eval]
  refine Running.reaches_whileLoop hlimit' fun u ↦ Action.Does.first ?_
  rw [htrue]
  refine Action.does_pure (Running.reaches_enter (Running.reaches_next hlimit' fun u ↦ ?_))
  refine does_declare ["local_name".toUTF8, "local_value".toUTF8] ?_
  rw [evalList_singleton]
  have hold : h₁.Searched { h with used := u } x seen := hsearched.mono (.used h u)
  have hfunction (k : List Value → Heap → Heap × Signal) : Action.eval
      (r.context (searchScope h₁ l name unused)) (.captured "getlocal".toUTF8 2) k
        { h with used := u } = k [.primitive (.debug .getlocal)] { h with used := u } := by
    rw [← (hold.old.cells hlook.getlocal).2, Action.eval]
    rfl
  have hargs (k : List Value → Heap → Heap × Signal) : Action.evalList
      (r.context (searchScope h₁ l name unused)) [.scope "level".toUTF8 3, .scope "i".toUTF8 0] k
        { h with used := u } =
          k [.int (Int64.ofNat (n + 2)), .int (Int64.ofNat (seen.length + 1))]
            { h with used := u } := by
    rw [← (hold.old.cells hlevel).2, ← hold.next.2]
    simp only [Action.evalList, Action.eval]
    rfl
  refine does_eval_call hfunction hargs ?_
  refine Machine.does_call_primitive (fun _ ↦ rfl) hslots fun line pending ↦ ?_
  refine does_getlocal hn hcount (fun _ ↦ (view_eq_viewAt? ..).trans hview) (fun hvar ↦ ?_)
    fun var hvar ↦ ?_
  · refine Running.reaches_declare (hnone hvar _ _ (hold.mono (.withCells _ _)) ?_)
    exact Heap.holds_withCells _ _ (i := 0) rfl
  · refine Running.reaches_declare (hsome var hvar _ _ (hold.mono (.withCells _ _)) ?_ ?_)
    · exact Heap.holds_withCells _ _ (i := 0) rfl
    · exact Heap.holds_withCells _ _ (i := 1) rfl

/-- The variables of a function are looked at one after the other. -/
theorem reaches_variableLoop {vars : List (Name × Nat)}
    (hlimit : h₁.limit = limit) (hlook : h₁.CanLookUp r.activation.captured g)
    (hslots : r.frame.slots + Machine.librarySlots ≤ Machine.slotLimit)
    (hview : viewAt? r.below n = some v) (hn : n + 2 < 2 ^ 63)
    (hlevel : h₁.Holds l (.int (Int64.ofNat (n + 2)))) (hname : h₁.Holds name (.str x))
    (hcount : v.locals.length + 1 < 2 ^ 63) (hcells : ∀ var ∈ v.locals, var.2 < h₁.cells.size)
    (hlocals : v.locals = seen ++ vars) (hsearched : h₁.Searched h x seen)
    (hgo : ∀ h', h₁.Searched h' x v.locals →
      r.Reaches limit P (searchScope h₁ l name unused) control .next h') :
    r.Reaches limit P (searchScope h₁ l name unused) (.whileLoop .true variableBlock :: control)
      .next h := by
  have hlimit' {h' : Heap} {vs : List (Name × Nat)} (hs : h₁.Searched h' x vs) :
      h'.limit = limit := hs.old.limit_eq.trans hlimit
  have hlength : seen.length ≤ v.locals.length := by
    rw [hlocals, List.length_append]
    omega
  induction vars generalizing seen h with
  | nil =>
    rw [List.append_nil] at hlocals
    refine reaches_getlocal hlimit hlook hslots hview hn hlevel hsearched (by omega) ?_ ?_
    · intro _ h' n hs hnil
      exact reaches_noVariable (hlimit' hs) hnil fun u ↦ hgo _ (hlocals ▸ hs.mono (.used h' u))
    · intro var hvar
      rw [hlocals, List.getElem?_length] at hvar
      cases hvar
  | cons var vars ih =>
    have hvar : v.locals[seen.length]? = some var := by
      rw [hlocals, List.getElem?_append_right (Nat.le_refl _), Nat.sub_self]
      rfl
    refine reaches_getlocal hlimit hlook hslots hview hn hlevel hsearched (by omega) ?_ ?_
    · intro hnone
      rw [hvar] at hnone
      cases hnone
    · intro var' hvar' h' n hs hfirst hsecond
      obtain rfl : var = var' := by
        rw [hvar] at hvar'
        exact Option.some.inj hvar'
      have hmem : var ∈ v.locals := by
        rw [hlocals]
        simp
      have hvalue : h.cell var.2 = h₁.cell var.2 :=
        (hsearched.old.cells ⟨hcells var hmem, rfl⟩).2
      rw [hvalue] at hsecond
      -- The name of a variable is not nil, so the search goes on.
      refine Running.reaches_next (hlimit' hs) fun u ↦ does_if (eval_eq_nil hfirst.2) ?_
      refine Running.reaches_enter (Running.reaches_blockEnd fun u ↦ ?_)
      refine reaches_compareName hlimit (hs.mono (.used h' u)) hname hfirst hsecond fun h'' hs' ↦ ?_
      refine ih ?_ hs' ?_
      · rw [List.append_assoc]
        exact hlocals
      · rw [hlocals]
        simp

end Loop

end Variables

section Levels

variable {h₀ : Heap} {name unused : Nat}

/-- The variables of the function. -/
def levelScope (l name unused : Nat) : Scope :=
  [("level".toUTF8, l), ("name".toUTF8, name), ("_".toUTF8, unused)]

/-- The variables of a function on the stack are where they can be found. -/
structure Frame.Sound (h : Heap) (f : Frame) : Prop where
  count : f.view.locals.length + 1 < 2 ^ 63
  cells : ∀ var ∈ f.view.locals, var.2 < h.cells.size

/-- The function has come to a level. -/
structure Heap.AtLevel (h₀ h : Heap) (l name n : Nat) (x : Name) : Prop where
  old : h₀.Extends h
  fresh : h₀.cells.size ≤ l
  ne : l ≠ name
  level : h.Holds l (.int (Int64.ofNat (n + 2)))
  name : h.Holds name (.str x)

theorem Heap.AtLevel.mono {h h' : Heap} (hl : h₀.AtLevel h l name n x) (hh : h.Extends h') :
    h₀.AtLevel h' l name n x :=
  ⟨hl.old.trans hh, hl.fresh, hl.ne, hh.cells hl.level, hh.cells hl.name⟩

/-- The statements that search a function on the stack, behind the first `k`. -/
def levelControl (l name unused k : Nat) (control : List Control) : List Control :=
  .block (levelBlock.statements.drop k) levelBlock (levelScope l name unused) [] :: control

section Level

variable {f : Frame}

/-- A search begins with none of the variables looked at. From then on `h₁` stays as it is, and only
variables that are newer change. -/
theorem reaches_beginSearch (hlimit : h₀.limit = limit) (hlevel : h₀.AtLevel h l name n x)
    (hgo : ∀ h₁ h', h₀.AtLevel h₁ l name n x → h₁.Searched h' x [] →
      r.Reaches limit P (searchScope h₁ l name unused)
        (.whileLoop .true variableBlock :: levelControl l name unused 3 control) .next h') :
    r.Reaches limit P (levelScope l name unused) (levelControl l name unused 0 control) .next h := by
  have hlimit' {h' : Heap} (hh : h₀.Extends h') : h'.limit = limit := hh.limit_eq.trans hlimit
  refine Running.reaches_next (hlimit' hlevel.old) fun u ↦ ?_
  obtain ⟨h₁, hh₁⟩ : ∃ h₁ : Heap, h₁ = { h with used := u } := ⟨_, rfl⟩
  have hlevel₁ : h₀.AtLevel h₁ l name n x := hh₁ ▸ hlevel.mono (.used h u)
  have hlimit₁ := hlimit' hlevel₁.old
  rw [← hh₁]
  have hvalues (c : Context) (k : List Value → Heap → Heap × Signal) :
      Action.evalList c [.false, .nil] k h₁ = k [.bool false, .nil] h₁ := by
    simp only [Action.evalList, Action.eval]
    rfl
  refine does_declare ["found".toUTF8, "value".toUTF8] (Action.does_of_eq (hvalues _) ?_)
  refine Running.reaches_declare (Running.reaches_next hlimit₁ fun u ↦ ?_)
  have hone (c : Context) (k : List Value → Heap → Heap × Signal) (h : Heap) :
      Action.evalList c [.int 1] k h = k [.int (Int64.ofNat 1)] h := by
    rw [evalList_singleton, Action.eval]
    rfl
  refine does_declare ["i".toUTF8] (Action.does_of_eq (hone _ · _) (Running.reaches_declare ?_))
  let begun : Heap := { h₁.withCells #[.bool false, .nil] with used := u }
  have hsize : begun.cells.size = h₁.cells.size + 2 := Array.size_append
  show r.Reaches limit P (("i".toUTF8, begun.cells.size) :: ("value".toUTF8, h₁.cells.size + 1) ::
    ("found".toUTF8, h₁.cells.size) :: levelScope l name unused) _ _ (begun.withCells #[.int 1])
  have hbegun : h₁.Extends begun := (Heap.Extends.withCells _ _).trans (.used _ u)
  have hsearched : h₁.Searched (begun.withCells #[.int 1]) x [] := by
    have hnew := Heap.Extends.withCells begun #[.int 1]
    refine ⟨hbegun.trans hnew, ?_, ?_, ?_⟩
    · exact hnew.cells ((Heap.Extends.used _ u).cells (Heap.holds_withCells _ _ (i := 0) rfl))
    · exact hnew.cells ((Heap.Extends.used _ u).cells (Heap.holds_withCells _ _ (i := 1) rfl))
    · rw [← hsize]
      exact Heap.holds_withCells _ _ (i := 0) rfl
  rw [hsize]
  have hwhile (c : Context) : Action.exec c (.while .true variableBlock) =
      pure (.loopWhile .true variableBlock) := by
    rw [Action.exec]
  refine Running.reaches_next (hlimit' (hlevel₁.old.trans hsearched.old)) fun u ↦ ?_
  rw [hwhile]
  exact Action.does_pure (Running.reaches_loopWhile (hgo h₁ _ hlevel₁ (hsearched.mono (.used _ u))))

/-- A search ends when all variables have been looked at: the value that was found is returned, or
else the next function is searched. -/
theorem reaches_endSearch {h₁ : Heap} (hlimit : h₀.limit = limit) (hsound : f.Sound h₀)
    (hclosing : Activation.nextClosing control = none) (hlevel : h₀.AtLevel h₁ l name n x)
    (hs : h₁.Searched h x f.view.locals)
    (hfound : ∀ a h', latest? x f.view.locals = some a → h₀.Extends h' →
      (Machine.deliver { r.machine with frames := r.below } h' [h₀.cell a]).Reaches limit P)
    (hgo : ∀ h', latest? x f.view.locals = none → h₀.AtLevel h' l name (n + 1) x →
      r.Reaches limit P (levelScope l name unused) control .next h') :
    r.Reaches limit P (searchScope h₁ l name unused) (levelControl l name unused 3 control) .next
      h := by
  have hold : h₀.Extends h := hlevel.old.trans hs.old
  have hlimit' : h.limit = limit := hold.limit_eq.trans hlimit
  refine Running.reaches_next hlimit' fun u ↦ does_if (b := (latest? x f.view.locals).isSome) ?_ ?_
  · intro k
    rw [← hs.found.2, Action.eval]
    rfl
  cases hlatest : latest? x f.view.locals with
  | some a =>
    have hvalue : h.cell (h₁.cells.size + 1) = h₀.cell a := by
      have hvar := mem_of_latest? hlatest
      rw [hs.value.2, hlatest]
      exact (hlevel.old.cells ⟨hsound.cells _ hvar, rfl⟩).2
    have hreturn (k : Effect → Heap → Heap × Signal) (u : Nat) : Action.exec
        (r.context (searchScope h₁ l name unused)) (.return [.scope "value".toUTF8 1]) k
          { h with used := u } = k (.return [h₀.cell a]) { h with used := u } := by
      rw [← hvalue, Action.exec, evalList_singleton, Action.eval]
      rfl
    refine Running.reaches_enter (Running.reaches_next hlimit' fun u ↦ ?_)
    refine Action.does_of_eq (hreturn · u) (Running.reaches_return hclosing hlimit' fun u ↦ ?_)
    exact hfound a _ hlatest (hold.trans (.used h u))
  | none =>
    refine Running.reaches_enter (Running.reaches_blockEnd fun u ↦ ?_)
    have hl := hs.old.cells hlevel.level
    refine Running.reaches_next hlimit' fun u ↦
      Action.does_of_eq (exec_count (n := n + 2) hl.2) (Running.reaches_blockEnd fun u ↦ ?_)
    refine hgo _ hlatest (Heap.AtLevel.mono (h := h.setCell l (.int (Int64.ofNat (n + 3)))) ?_
      (.used _ u))
    exact ⟨hold.setCell hlevel.fresh _, hlevel.fresh, hlevel.ne, hl.setCell_self _,
      (hs.old.cells hlevel.name).setCell_of_ne hlevel.ne _⟩

/-- A function on the stack is searched: either its variable is returned, or the next one is
searched. -/
theorem reaches_levelBlock (hlimit : h₀.limit = limit)
    (hlook : h₀.CanLookUp r.activation.captured g)
    (hslots : r.frame.slots + Machine.librarySlots ≤ Machine.slotLimit)
    (hf : r.below[n]? = some f) (hfunction : f.function.isNil = false) (hsound : f.Sound h₀)
    (hn : n + 2 < 2 ^ 63) (hclosing : Activation.nextClosing control = none)
    (hlevel : h₀.AtLevel h l name n x)
    (hfound : ∀ a h', latest? x f.view.locals = some a → h₀.Extends h' →
      (Machine.deliver { r.machine with frames := r.below } h' [h₀.cell a]).Reaches limit P)
    (hgo : ∀ h', latest? x f.view.locals = none → h₀.AtLevel h' l name (n + 1) x →
      r.Reaches limit P (levelScope l name unused) control .next h') :
    r.Reaches limit P (levelScope l name unused) control (.enter levelBlock) h := by
  have hview : viewAt? r.below n = some f.view := by
    rw [viewAt?, hf]
    simp [hfunction]
  refine Running.reaches_enter (reaches_beginSearch hlimit hlevel fun h₁ h' hlevel₁ hsearched ↦ ?_)
  have hcells (var) (hvar : var ∈ f.view.locals) : var.2 < h₁.cells.size := by
    have hvar' := hlevel₁.old.cells ⟨hsound.cells var hvar, rfl⟩
    exact hvar'.1
  refine reaches_variableLoop (hlevel₁.old.limit_eq.trans hlimit) (hlook.mono hlevel₁.old) hslots
    hview hn hlevel₁.level hlevel₁.name hsound.count hcells rfl hsearched fun h₂ hs ↦ ?_
  exact reaches_endSearch hlimit hsound hclosing hlevel₁ hs hfound hgo

end Level

/-- The function asks whether there is a function at the level. -/
theorem reaches_levelTest (hlimit : h₀.limit = limit)
    (hlook : h₀.CanLookUp r.activation.captured g)
    (hslots : r.frame.slots + Machine.librarySlots ≤ Machine.slotLimit) (hn : n + 2 < 2 ^ 63)
    (hlevel : h₀.AtLevel h l name n x)
    (hnone : viewAt? r.below n = none → ∀ h', h₀.AtLevel h' l name n x →
      r.Reaches limit P (levelScope l name unused) control .next h')
    (hsome : ∀ v, viewAt? r.below n = some v → ∀ h', h₀.AtLevel h' l name n x →
      r.Reaches limit P (levelScope l name unused)
        (.whileLoop levelCondition levelBlock :: control) (.enter levelBlock) h') :
    r.Reaches limit P (levelScope l name unused)
      (.whileLoop levelCondition levelBlock :: control) .next h := by
  refine Running.reaches_whileLoop (hlevel.old.limit_eq.trans hlimit) fun u ↦ ?_
  have hlevel' := hlevel.mono (.used h u)
  refine does_levelCondition (hlook.mono hlevel'.old) hslots hlevel'.level hn (fun hview ↦ ?_)
    fun v hview ↦ ?_
  · exact Running.reaches_leaveLoop fun u ↦ hnone hview _ (hlevel'.mono (.used _ u))
  · exact hsome v hview _ (hlevel'.mono (.newTable _ _))

/-- The functions on the stack are searched one after the other. -/
theorem reaches_levelLoop {left : List Frame} (hlimit : h₀.limit = limit)
    (hlook : h₀.CanLookUp r.activation.captured g)
    (hslots : r.frame.slots + Machine.librarySlots ≤ Machine.slotLimit)
    (hleft : r.below.drop n = left) (hsound : ∀ f ∈ left, f.Sound h₀)
    (hdepth : n + left.length + 2 < 2 ^ 63) (hclosing : Activation.nextClosing control = none)
    (hlevel : h₀.AtLevel h l name n x)
    (hfound : ∀ v h', h₀.visible? x left = some v → h₀.Extends h' →
      (Machine.deliver { r.machine with frames := r.below } h' [v]).Reaches limit P)
    (hgo : ∀ h', h₀.visible? x left = none → h₀.Extends h' → h'.Holds name (.str x) →
      r.Reaches limit P (levelScope l name unused) control .next h') :
    r.Reaches limit P (levelScope l name unused)
      (.whileLoop levelCondition levelBlock :: control) .next h := by
  induction left generalizing n h with
  | nil =>
    have hview : viewAt? r.below n = none := by
      rw [viewAt?, List.getElem?_eq_none (List.drop_eq_nil_iff.1 hleft)]
      rfl
    refine reaches_levelTest hlimit hlook hslots (by omega) hlevel (fun _ h' hl ↦ ?_) fun v hv ↦ ?_
    · exact hgo h' rfl hl.old hl.name
    · rw [hview] at hv
      cases hv
  | cons f left ih =>
    have hf : r.below[n]? = some f := by
      rw [← Nat.add_zero n, ← List.getElem?_drop, hleft]
      rfl
    have hdrop : r.below.drop (n + 1) = left := by
      rw [← List.drop_drop, hleft]
      rfl
    obtain ⟨hsoundf, hsound⟩ := List.forall_mem_cons.1 hsound
    rw [List.length_cons] at hdepth
    refine reaches_levelTest hlimit hlook hslots (by omega) hlevel (fun hview h' hl ↦ ?_)
      fun v hview h' hl ↦ ?_
    · have hprogram : f.function.isNil = true := by
        by_contra hnot
        simp [viewAt?, hf, hnot] at hview
      exact hgo h' (by rw [Heap.visible?, if_pos hprogram]) hl.old hl.name
    · have hfunction : ¬f.function.isNil = true := by
        intro hprogram
        simp [viewAt?, hf, hprogram] at hview
      rw [Heap.visible?, if_neg hfunction] at hfound hgo
      refine reaches_levelBlock hlimit hlook hslots hf (Bool.eq_false_iff.2 hfunction) hsoundf
        (by omega) hclosing hl (fun a h'' ha hh ↦ ?_) fun h'' hlatest hl' ↦ ?_
      · exact hfound _ h'' (by rw [ha]) hh
      · rw [hlatest] at hfound hgo
        exact ih hdrop hsound (by omega) hl' hfound hgo

/-- The statements of the function, behind the first `k`. -/
def lookupControl (k : Nat) : List Control :=
  [.block (lookupBlock.statements.drop k) lookupBlock [] []]

/-- The function begins to look at the fourth level below itself, which is the sixth one for the
library. -/
theorem reaches_beginLookup (hlimit : h₀.limit = limit)
    (hlook : h₀.CanLookUp r.activation.captured g) (hold : h₀.Extends h)
    (hfresh : h₀.cells.size ≤ h.cells.size) (hname : h.Holds name (.str x))
    (hgo : ∀ h', h₀.AtLevel h' h.cells.size name 4 x →
      r.Reaches limit P (levelScope h.cells.size name unused)
        (.whileLoop levelCondition levelBlock :: lookupControl 2) .next h') :
    r.Reaches limit P [("name".toUTF8, name), ("_".toUTF8, unused)] (lookupControl 0) .next h := by
  refine Running.reaches_next (hold.limit_eq.trans hlimit) fun u ↦ does_declare ["level".toUTF8] ?_
  have hcaller (k : List Value → Heap → Heap × Signal) : Action.evalList
      (r.context [("name".toUTF8, name), ("_".toUTF8, unused)])
        [.captured "CALLER_LEVEL".toUTF8 0] k { h with used := u } =
          k [.int (Int64.ofNat 6)] { h with used := u } := by
    rw [← (hold.cells hlook.level).2, evalList_singleton, Action.eval]
    rfl
  refine Action.does_of_eq hcaller (Running.reaches_declare ?_)
  let placed : Heap := { h with used := u }.withCells #[.int (Int64.ofNat 6)]
  have hplaced : h.Extends placed := (Heap.Extends.used _ u).trans (.withCells _ _)
  have hlevel : h₀.AtLevel placed h.cells.size name 4 x := by
    have hlt := hname.1
    refine ⟨hold.trans hplaced, hfresh, by omega, ?_, hplaced.cells hname⟩
    exact Heap.holds_withCells { h with used := u } _ (i := 0) rfl
  show r.Reaches limit P (levelScope h.cells.size name unused) _ _ placed
  have hwhile (c : Context) : Action.exec c (.while levelCondition levelBlock) =
      pure (.loopWhile levelCondition levelBlock) := by
    rw [Action.exec]
  refine Running.reaches_next (hlevel.old.limit_eq.trans hlimit) fun u ↦ ?_
  rw [hwhile]
  exact Action.does_pure (Running.reaches_loopWhile (hgo _ (hlevel.mono (.used _ u))))

/-- In the end the function answers what `rawget` does for the global variable. -/
theorem reaches_globalAnswer (hlimit : h₀.limit = limit)
    (hlook : h₀.CanLookUp r.activation.captured g)
    (hslots : r.frame.slots + Machine.librarySlots ≤ Machine.slotLimit) (hold : h₀.Extends h)
    (hname : h.Holds name (.str x))
    (hgo : ∀ h', h₀.Extends h' → (Machine.deliver { r.machine with frames := r.below } h'
      [h₀.rawGet g (.str x)]).Reaches limit P) :
    r.Reaches limit P (levelScope l name unused) (lookupControl 2) .next h := by
  have hanswer (u : Nat) (k : Effect → Heap → Heap × Signal) : Action.exec
      (r.context (levelScope l name unused)) globalAnswer k { h with used := u } =
        ({ h with used := u }, .tailCall (.primitive (.base .rawget)) [.table g, .str x]
          ⟨29, some ("upvalue", "rawget".toUTF8)⟩) := by
    rw [← (hold.cells hlook.rawget).2, ← (hold.cells hlook.globals).2, ← hname.2, globalAnswer,
      Action.exec]
    simp only [Action.evalList, Action.eval]
    rfl
  have hglobal (u : Nat) : ({ h with used := u } : Heap).rawGet g (.str x) =
      h₀.rawGet g (.str x) := by
    rw [Heap.rawGet, Heap.rawGet, ← hold.grew.table_eq hlook.globals_lt List.not_mem_nil]
    rfl
  refine Running.reaches_next_tailCall
    (R := fun vs h' ↦ h₀.Extends h' ∧ vs = [h₀.rawGet g (.str x)])
    (hold.limit_eq.trans hlimit) hslots hanswer
    (fun u m ↦ does_rawget ⟨hold.trans (.used h u), by rw [hglobal]⟩) ?_
  rintro _ h' ⟨hold', rfl⟩
  exact Running.reaches_return rfl (hold'.limit_eq.trans hlimit) fun u ↦
    hgo _ (hold'.trans (.used h' u))

end Levels

/-- The function that looks a name up answers the value of the variable that is visible from the
third function below the one that asks, or else the global variable. -/
theorem does_call_lookup {m : Machine} {reader : Frame} {rest : List Frame} {a e : Nat}
    {captured : Array Nat} {site : CallSite} {nested : Bool}
    (hfun : h.function? a = some (.script lookup captured)) (hlook : h.CanLookUp captured g)
    (hnests : ∀ line, (m.stacked reader rest line).nests site = nested)
    (hdepth : reader.depth + 1 < Machine.depthLimit)
    (hslots : reader.slots + 33 ≤ Machine.slotLimit) (hlength : rest.length + 4 < 2 ^ 63)
    (hsound : ∀ f ∈ rest.drop 3, f.Sound h) :
    (Action.call (.function a) [.table e, .str x] site).Does h.limit (m.stacked reader rest) h
      fun vs h' ↦ h.Extends h' ∧
        vs = [(h.visible? x (rest.drop 3)).getD (h.rawGet g (.str x))] := by
  have hframe : lookup.info.frameSize + List.length [Value.table e, .str x] = 13 := rfl
  have hlibrary : Machine.librarySlots = 20 := rfl
  refine Machine.does_call_script hfun hnests hdepth (by omega) fun P line pending hret ↦ ?_
  let r : Running := .begun m (reader.waiting line pending :: rest) (.function a) lookup captured
    [.table e, .str x] site.name false (Machine.calleeDepth reader nested) (reader.slots + 13)
  let begun : Heap := h.withCells #[.table e, .str x]
  have hname : begun.Holds (h.cells.size + 1) (.str x) :=
    Heap.holds_withCells h [.table e, .str x] (i := 1) rfl
  have hslots' : r.frame.slots + Machine.librarySlots ≤ Machine.slotLimit := by
    show reader.slots + 13 + _ ≤ _
    omega
  show r.Reaches h.limit P [("name".toUTF8, h.cells.size + 1), ("_".toUTF8, h.cells.size)]
    (lookupControl 0) _ begun
  refine reaches_beginLookup rfl hlook (.withCells _ _) (Nat.le_of_lt (Nat.lt_of_succ_lt hname.1))
    hname fun h' hlevel ↦ ?_
  have hrest : r.below.drop 4 = rest.drop 3 := rfl
  refine reaches_levelLoop rfl hlook hslots' hrest hsound ?_ rfl hlevel (fun v h' hv hh ↦ ?_)
    fun h' hv hh hx ↦ ?_
  · rw [List.length_drop]
    omega
  · exact hret [v] h' ⟨hh, by rw [hv]; rfl⟩
  · exact reaches_globalAnswer rfl hlook hslots' hh hx fun h'' hh' ↦
      hret _ h'' ⟨hh', by rw [hv]; rfl⟩

end Lookup

/-! ### Tables that look names up -/

/-- What is not in the table `e` is looked up on the stack, or else among the globals in `g`. -/
def Heap.LooksUp (h : Heap) (e g : Nat) : Prop :=
  ∃ mt a captured, (h.table e).metatable = some mt ∧
    h.rawGet mt (.str MetaName.index) = .function a ∧
    h.function? a = some (.script Interpolation.lookup captured) ∧ h.CanLookUp captured g

theorem Heap.LooksUp.lt_size {e g : Nat} (hlooks : h.LooksUp e g) : e < h.tables.size := by
  obtain ⟨mt, a, captured, hmeta, -⟩ := hlooks
  refine Nat.lt_of_not_le fun hle ↦ ?_
  rw [table_of_size_le hle] at hmeta
  cases hmeta

theorem Heap.LooksUp.mono {h h' : Heap} {e g : Nat} (hlooks : h.LooksUp e g)
    (hh : h.Extends h') : h'.LooksUp e g := by
  have he := hlooks.lt_size
  obtain ⟨mt, a, captured, hmeta, hindex, hfun, hlook⟩ := hlooks
  refine ⟨mt, a, captured, ?_, ?_, hh.grew.function?_eq hfun, hlook.mono hh⟩
  · rw [hh.grew.table_eq he List.not_mem_nil, hmeta]
  · rw [hh.rawGet_eq (by simp [hindex]), hindex]

/-- A name that is not in the table is that of the variable that is visible from the third function
below the one that reads it, or else that of a global variable. -/
theorem does_index_of_looksUp {m : Machine} {reader : Frame} {rest : List Frame} {e g : Nat}
    {x : Name} (hlooks : h.LooksUp e g) (hx : h.rawGet e (.str x) = .nil)
    (hdepth : reader.depth + 1 < Machine.depthLimit)
    (hslots : reader.slots + 33 ≤ Machine.slotLimit) (hlength : rest.length + 4 < 2 ^ 63)
    (hsound : ∀ f ∈ rest.drop 3, f.Sound h) (place : Option Place) (name : Option NameInUse) :
    (Action.index place name (.table e) (.str x)).Does h.limit (m.stacked reader rest) h
      fun v h' ↦ h.Extends h' ∧
        v = (h.visible? x (rest.drop 3)).getD (h.rawGet g (.str x)) := by
  obtain ⟨mt, a, captured, hmeta, hindex, hfun, hlook⟩ := hlooks
  have hlimit : Action.metaLimit = 1999 + 1 := rfl
  have hget : (h.table e).getValue (.str x) = .nil := hx
  have hhandler : h.metafield (.table e) MetaName.index = .function a := by
    simp only [Heap.metafield, Heap.metatable?, hmeta, hindex]
  have hread (k : Value → Heap → Heap × Signal) :
      Action.index place name (.table e) (.str x) k h =
        Action.callMetaFirst place "index" (.function a) [.table e, .str x] k h := by
    rw [Action.index, hlimit, Action.indexLoop]
    simp [hget, hhandler, Value.isNil, Value.isFunction]
  have hnests (line : Nat) :
      (m.stacked reader rest line).nests (metaSite place "index") = true :=
    Bool.or_true _
  have hcall : (Action.callMetaFirst place "index" (.function a) [.table e, .str x]).Does h.limit
      (m.stacked reader rest) h fun v h' ↦ h.Extends h' ∧
        v = (h.visible? x (rest.drop 3)).getD (h.rawGet g (.str x)) := by
    refine (does_call_lookup hfun hlook hnests hdepth hslots hlength hsound).bind fun vs h' hvs ↦ ?_
    exact Action.does_pure ⟨hvs.1, by rw [hvs.2]; rfl⟩
  intro P k hk line
  rw [hread]
  exact hcall P k hk line

end MacroStream.Script
