import MacroStream.Proofs.Script.Reaching

/-!
# What expressions and statements do

Rules for the kinds of expressions and statements that functions of scripts are mostly made of, and
for reading the arguments of library functions. Each of them says what one construct does when it is
known what its parts do; so a function of which the tree is known can be followed statement by
statement.
-/

namespace MacroStream.Script

variable {limit : Nat} {h : Heap}

/-! ### Arguments of library functions -/

section Arguments

variable {args : Args} {i : Int64} {k n : Nat}

theorem int64_ofNat_nonneg (hn : n < 2 ^ 63) : ¬Int64.ofNat n < 0 := by
  rw [Int64.lt_iff_toInt_lt, Int64.toInt_ofNat_of_lt hn]
  simp

theorem toNatClampNeg_ofNat (hn : n < 2 ^ 63) : (Int64.ofNat n).toNatClampNeg = n := by
  rw [Int64.toNatClampNeg, Int64.toInt_ofNat_of_lt hn]
  simp

theorem needInt_of_arg (harg : Action.arg args k = .int i) : Action.needInt args k = pure i := by
  rw [Action.needInt, harg]
  rfl

theorem needBytes_of_arg {s : ByteArray} (harg : Action.arg args k = .str s) :
    Action.needBytes args k = pure s := by
  rw [Action.needBytes, harg]
  rfl

theorem optBytes_of_arg {s : ByteArray} (harg : Action.arg args k = .str s) (t : ByteArray) :
    Action.optBytes args k t = pure s := by
  rw [Action.optBytes, Action.isAbsent, harg]
  exact needBytes_of_arg harg

theorem optInt_of_arg (harg : Action.arg args k = .int i) (j : Int64) :
    Action.optInt args k j = pure i := by
  rw [Action.optInt, Action.isAbsent, harg]
  exact needInt_of_arg harg

/-- A level in front says nothing of a thread, so it is the running one. -/
theorem targetThread_of_arg (harg : Action.arg args 1 = .int i)
    (next : Nat × Nat → Heap → Heap × Signal) :
    Library.targetThread args next h = next (h.running, 0) h := by
  rw [Library.targetThread, harg]
  rfl

end Arguments

/-! ### Expressions and statements -/

section Expressions

variable {m : Nat → Machine} {c : Context}

theorem equal_nil (place : Option Place) (v : Value) (k : Bool → Heap → Heap × Signal) :
    Action.equal place v .nil k h = k v.isNil h := by
  cases v <;> rfl

theorem equal_str (place : Option Place) (s t : ByteArray) (k : Bool → Heap → Heap × Signal) :
    Action.equal place (.str s) (.str t) k h = k (s = t) h := by
  have hbeq : (s == t) = true ↔ s = t := by
    obtain ⟨a⟩ := s
    obtain ⟨b⟩ := t
    show (a == b) = true ↔ _
    rw [beq_iff_eq, ByteArray.mk.injEq]
  have hequal : Action.equal place (.str s) (.str t) =
      if s == t then pure true else pure false := rfl
  rw [hequal]
  by_cases hst : s = t
  · rw [if_pos (hbeq.2 hst), decide_eq_true hst, Action.pure_apply]
  · rw [if_neg (hst ∘ hbeq.1), decide_eq_false hst, Action.pure_apply]

theorem does_eval_call {f : Expr} {args : List Expr} {line : Nat} {fv : Value} {vs : List Value}
    {Q : List Value → Heap → Prop} (hf : ∀ k, Action.eval c f k h = k [fv] h)
    (hargs : ∀ k, Action.evalList c args k h = k vs h)
    (hcall : (Action.call fv vs ⟨line, f.nameInUse⟩).Does limit m h Q) :
    (Action.eval c (.call f args line)).Does limit m h Q := by
  intro P k hk l
  have heval : Action.eval c (.call f args line) k h =
      Action.call fv vs ⟨line, f.nameInUse⟩ k h := by
    rw [Action.eval]
    simp only [Action.bind_apply, Action.first_apply, hf, hargs, List.headD_cons]
  rw [heval]
  exact hcall P k hk l

theorem evalList_singleton (c : Context) (e : Expr) : Action.evalList c [e] = Action.eval c e := by
  rw [Action.evalList]

/-- Of all expressions in a list but the last one the first value is taken. -/
theorem does_evalList_cons {e e' : Expr} {es : List Expr} {Q : List Value → Heap → Prop}
    (he : (Action.eval c e).Does limit m h fun vs h' ↦
      (Action.evalList c (e' :: es)).Does limit m h' fun ws h'' ↦ Q (vs.headD .nil :: ws) h'') :
    (Action.evalList c (e :: e' :: es)).Does limit m h Q := by
  rw [Action.evalList]
  · exact (Action.Does.first (R := fun v h' ↦ (Action.evalList c (e' :: es)).Does limit m h'
      fun ws h'' ↦ Q (v :: ws) h'') he).bind fun _ _ hes ↦ hes.bind fun _ _ hQ ↦ Action.does_pure hQ
  · simp

/-- New variables have addresses one after the other. -/
theorem does_declare (names : List Name) {values : List Expr} {line : Nat}
    {Q : Effect → Heap → Prop}
    (hvalues : (Action.evalList c values).Does limit m h fun vs h' ↦
      Q (.declare (names.zipIdx h'.cells.size))
        (h'.withCells (Action.adjust names.length vs).toArray)) :
    (Action.exec c (.declare (names.map (·, .regular)) values line)).Does limit m h Q := by
  rw [Action.exec]
  refine hvalues.bind fun vs h' hvs ↦ Action.does_of_eq (fun k ↦ ?_) hvs
  have hlength := length_adjust names.length vs
  have hregular (cells : List (Name × Nat)) :
      (((names.map (·, Attribute.regular)).map Prod.snd).zip cells).find?
        (fun x ↦ decide (x.1 = Attribute.close)) = none := by
    rw [List.find?_eq_none]
    rintro ⟨kind, cell⟩ hmem
    obtain ⟨name, -, rfl⟩ : ∃ name ∈ names, Attribute.regular = kind := by
      simpa using (List.of_mem_zip hmem).1
    exact of_decide_eq_false rfl
  have hnames : (names.map (·, Attribute.regular)).map Prod.fst = names := by
    rw [List.map_map]
    exact List.map_id names
  rw [List.length_map, hnames, Action.bind_apply, newCells_apply,
    List.map_fst_zip (by omega), List.map_snd_zip (by omega)]
  simp only [hregular]
  rfl

theorem does_if {condition : Expr} {yes no : Block} {b : Bool} {Q : Effect → Heap → Prop}
    (hcondition : ∀ k, Action.eval c condition k h = k [.bool b] h)
    (hQ : Q (.enter (if b then yes else no)) h) :
    (Action.exec c (.if condition yes no)).Does limit m h Q := by
  refine Action.does_of_eq (fun k ↦ ?_) hQ
  rw [Action.exec]
  simp only [Action.bind_apply, Action.first_apply, hcondition, List.headD_cons, Action.pure_apply]
  cases b <;> rfl

/-- A comparison of a variable with nil. -/
theorem eval_eq_nil {i line : Nat} {x : Name} {v : Value} (hv : h.cell (c.address i) = v)
    (k : List Value → Heap → Heap × Signal) :
    Action.eval c (.binary .eq (.scope x i) .nil line) k h = k [.bool v.isNil] h := by
  rw [Action.eval]
  simp only [Context.lateAddress?, Action.bind_apply, Action.first_apply, Action.eval,
    Action.pure_apply, Action.read_apply, Action.binary, BinaryOp.isComparison, if_true,
    Action.compare, List.headD_cons, equal_nil, hv]

/-- A comparison of two variables that hold strings. -/
theorem eval_eq_str {i j line : Nat} {x y : Name} {s t : ByteArray}
    (hs : h.cell (c.address i) = .str s) (ht : h.cell (c.address j) = .str t)
    (k : List Value → Heap → Heap × Signal) :
    Action.eval c (.binary .eq (.scope x i) (.scope y j) line) k h = k [.bool (s = t)] h := by
  rw [Action.eval]
  simp only [Context.lateAddress?, Action.bind_apply, Action.first_apply, Action.eval,
    Action.pure_apply, Action.read_apply, Action.binary, BinaryOp.isComparison, if_true,
    Action.compare, List.headD_cons, equal_str, hs, ht]

/-- A variable is counted up. -/
theorem exec_count {i line line' n : Nat} {x : Name}
    (hn : h.cell (c.address i) = .int (Int64.ofNat n)) (k : Effect → Heap → Heap × Signal) :
    Action.exec c (.assign [.scope i] [.binary .add (.scope x i) (.int 1) line] line') k h =
      k .next (h.setCell (c.address i) (.int (Int64.ofNat (n + 1)))) := by
  have hadd : Int64.ofNat (n + 1) = Int64.ofNat n + 1 := Int64.ofNat_add n 1
  rw [Action.exec, hadd]
  simp only [Action.evalTarget, Context.lateAddress?, Action.bind_apply, Action.first_apply,
    Action.eval, Action.pure_apply, Action.read_apply, Action.binary, BinaryOp.isComparison,
    Bool.false_eq_true, if_false, List.headD_cons, hn, Action.store]
  rfl

end Expressions

end MacroStream.Script
