import MacroStream.Script.Interpreter

/-!
# Chunks that only set up

A chunk that declares local variables and then defines a global function runs through without a
call, and what it leaves in the heap can be said beforehand: some variables, one more function, and
one more entry in the table of global variables.

The values of such declarations are *plain*: integers, the table of global variables, and what
stands in it or in a table that stands in it. `plainValue?` finds them by a look at the heap, so
whether a chunk sets up is decided by `isSetup`.

All of this takes memory, and a heap with a limit has to have room for it; `Heap.Roomy` says so.
-/

namespace MacroStream.Script

/-! ### Turns without the host -/

/-- From a turn the machine comes to another one in a number of steps, without asking the host. -/
inductive Leads : Nat → Turn → Turn → Prop
  | refl (t : Turn) : Leads 0 t t
  | step {n : Nat} {m : Machine} {h : Heap} {s : Signal} {t : Turn}
    (ht : Leads n (m.step h s) t) : Leads (n + 1) (.go m h s) t

theorem Leads.trans {n k : Nat} {t t' t'' : Turn} (ht : Leads n t t') (ht' : Leads k t' t'') :
    Leads (k + n) t t'' := by
  induction ht with
  | refl => exact ht'
  | step _ ih => exact .step (ih ht')

theorem run_of_leads {μ : Type → Type} [Monad μ] {respond : Responder μ} {n fuel : Nat} {t : Turn}
    {m : Machine} {h : Heap} {e : Ending} (ht : Leads n t (.stop m h e)) (hn : n ≤ fuel) :
    run respond fuel t = pure (m, h, e) := by
  generalize ht' : Turn.stop m h e = t' at ht
  induction ht generalizing fuel with
  | refl => rw [← ht', run]
  | step _ ih =>
    obtain ⟨fuel, rfl⟩ : ∃ k, fuel = k + 1 := ⟨fuel - 1, by omega⟩
    rw [run]
    exact ih (by omega) ht'

/-! ### Computations given what to do next -/

section Apply

variable {α β : Type}

-- The parentheses keep these from being used by unfolding, which would not stop at what they say.

@[simp]
theorem Action.bind_apply (x : Action α) (f : α → Action β) (k : β → Heap → Heap × Signal)
    (h : Heap) : (x >>= f) k h = x (fun a ↦ f a k) h := (rfl)

@[simp]
theorem Action.pure_apply (a : α) (k : α → Heap → Heap × Signal) (h : Heap) :
    (pure a : Action α) k h = k a h := (rfl)

@[simp]
theorem Action.read_apply (f : Heap → α) (k : α → Heap → Heap × Signal) (h : Heap) :
    Action.read f k h = k (f h) h := (rfl)

@[simp]
theorem Action.update_apply (f : Heap → Heap) (k : Unit → Heap → Heap × Signal) (h : Heap) :
    Action.update f k h = k () (f h) := (rfl)

@[simp]
theorem Action.modifyGet_apply (f : Heap → α × Heap) (k : α → Heap → Heap × Signal) (h : Heap) :
    Action.modifyGet f k h = k (f h).1 (f h).2 := (rfl)

@[simp]
theorem Action.first_apply (x : Action (List Value)) (k : Value → Heap → Heap × Signal)
    (h : Heap) : Action.first x k h = x (fun vs ↦ k (vs.headD .nil)) h := (rfl)

end Apply

/-! ### Room -/

/-- There is memory for so many bytes more. -/
def Heap.Roomy (h : Heap) (bytes : Nat) : Prop := h.limit = 0 ∨ h.used + bytes ≤ h.limit

theorem Heap.Roomy.not_over {h : Heap} {bytes : Nat} (hroom : h.Roomy bytes) :
    (h.limit ≠ 0 && h.limit < h.used + bytes) = false := by
  rcases hroom with hlimit | hlimit
  · simp [hlimit]
  · simp [Nat.not_lt.2 hlimit]

theorem Heap.Roomy.mono {h h' : Heap} {bytes bytes' : Nat} (hroom : h.Roomy bytes)
    (hlimit : h'.limit = h.limit) (hused : h'.used + bytes' ≤ h.used + bytes) :
    h'.Roomy bytes' := by
  rcases hroom with h0 | hle
  · exact .inl (hlimit.trans h0)
  · exact .inr (by omega)

theorem performWithin_of_roomy {m : Machine} {h : Heap} (hroom : h.Roomy 0) (e : Effect) :
    m.performWithin h e = m.perform h e := by
  have hover := hroom.not_over
  rw [Nat.add_zero] at hover
  rw [Machine.performWithin, hover]
  rfl

theorem reserve_of_roomy {h : Heap} {bytes : Nat} (hroom : h.Roomy bytes)
    (k : Unit → Heap → Heap × Signal) :
    Action.reserve bytes k h = k () { h with used := h.used + bytes } := by
  rw [Action.reserve, hroom.not_over]
  rfl

/-! ### Plain values -/

/-- What stands under a name in a table; nothing if there is no table or no entry. -/
def Heap.field? (h : Heap) (v : Value) (name : ByteArray) : Option Value :=
  match v with
  | .table a => if (h.rawGet a (.str name)).isNil then none else some (h.rawGet a (.str name))
  | _ => none

/-- The value of an expression that is a number, or is read from table to table, starting with the
table of global variables `env`. -/
def plainValue? (h : Heap) (env : Value) : Expr → Option Value
  | .int n => some (.int n)
  | .captured _ 0 => some env
  | .index o (.str s) _ => (plainValue? h env o).bind fun v ↦ h.field? v s
  | _ => none

theorem field?_congr {h h' : Heap} (htables : h'.tables = h.tables) (v : Value)
    (name : ByteArray) : h'.field? v name = h.field? v name := by
  have hget (a : Nat) (k : Key) : h'.rawGet a k = h.rawGet a k := by
    rw [Heap.rawGet, Heap.rawGet, Heap.table, Heap.table, htables]
  cases v <;> simp only [Heap.field?, hget]

theorem plainValue?_congr {h h' : Heap} (htables : h'.tables = h.tables) (env : Value) (e : Expr) :
    plainValue? h' env e = plainValue? h env e := by
  fun_induction plainValue? h env e with
  | case1 | case2 => rfl
  | case3 o s line ih => simp only [plainValue?, ih, field?_congr htables]
  | case4 e hint hcaptured hindex =>
    rw [plainValue?]
    all_goals assumption

/-- The first captured variable holds `env`. -/
def Context.Sees (c : Context) (h : Heap) (env : Value) : Prop :=
  h.cell (c.captured.getD 0 0) = env

theorem index_of_field? {h : Heap} {o v : Value} {s : ByteArray} (hv : h.field? o s = some v)
    (place : Option Place) (name : Option NameInUse) (k : Value → Heap → Heap × Signal) :
    Action.index place name o (.str s) k h = k v h := by
  have hlimit : Action.metaLimit = 1999 + 1 := rfl
  cases o with
  | table a =>
    rw [Heap.field?] at hv
    split at hv
    case isTrue => exact nomatch hv
    case isFalse hnil =>
      obtain rfl := Option.some.inj hv
      have hget : (h.table a).getValue (.str s) = h.rawGet a (.str s) := rfl
      rw [Action.index, hlimit, Action.indexLoop]
      simp [hget, hnil]
  | _ => exact nomatch hv

theorem eval_of_plainValue? {c : Context} {h : Heap} {env v : Value} {e : Expr}
    (hc : c.Sees h env) (hv : plainValue? h env e = some v)
    (k : List Value → Heap → Heap × Signal) : Action.eval c e k h = k [v] h := by
  fun_induction plainValue? h env e generalizing v k with
  | case1 n =>
    obtain rfl := Option.some.inj hv
    rw [Action.eval]
    rfl
  | case2 name =>
    obtain rfl := Option.some.inj hv
    rw [Context.Sees] at hc
    rw [Action.eval, Action.bind_apply, Action.read_apply, Action.pure_apply, hc]
  | case3 o s line ih =>
    obtain ⟨w, hw, hfield⟩ := Option.bind_eq_some_iff.1 hv
    -- Only a local variable is read late, and no local variable is plain.
    have hlate : c.lateAddress? o = none := by
      cases o with
      | captured | index => rfl
      | _ => simp_all [plainValue?, Context.lateAddress?]
    rw [Action.eval, hlate]
    simp [Action.eval, ih hw, index_of_field? hfield]
  | case4 => exact nomatch hv

/-- The values of plain expressions. -/
def plainValues? (h : Heap) (env : Value) : List Expr → Option (List Value)
  | [] => some []
  | e :: es => do
    let v ← plainValue? h env e
    let vs ← plainValues? h env es
    return v :: vs

theorem plainValues?_congr {h h' : Heap} (htables : h'.tables = h.tables) (env : Value)
    (es : List Expr) : plainValues? h' env es = plainValues? h env es := by
  induction es with
  | nil => rfl
  | cons e es ih => rw [plainValues?, plainValues?, plainValue?_congr htables, ih]

theorem evalList_of_plainValues? {c : Context} {h : Heap} {env : Value} {es : List Expr}
    {vs : List Value} (hc : c.Sees h env) (hvs : plainValues? h env es = some vs)
    (k : List Value → Heap → Heap × Signal) : Action.evalList c es k h = k vs h := by
  induction es generalizing vs k with
  | nil =>
    obtain rfl := Option.some.inj hvs
    rw [Action.evalList]
    rfl
  | cons e es ih =>
    obtain ⟨v, hv, ws, hws, rfl⟩ : ∃ v, plainValue? h env e = some v ∧
        ∃ ws, plainValues? h env es = some ws ∧ v :: ws = vs := by
      simpa [plainValues?, Option.bind_eq_some_iff] using hvs
    cases es with
    | nil =>
      obtain rfl := Option.some.inj hws
      rw [Action.evalList]
      exact eval_of_plainValue? hc hv k
    | cons e' es =>
      rw [Action.evalList]
      · simp [eval_of_plainValue? hc hv, ih hws]
      · simp

/-! ### Statements of such chunks -/

/-- The heap with more variables. -/
def Heap.withCells (h : Heap) (vs : Array Value) : Heap := { h with cells := h.cells ++ vs }

theorem Heap.withCells_empty (h : Heap) : h.withCells #[] = h := by
  rw [withCells, Array.append_empty]

theorem Heap.withCells_withCells (h : Heap) (vs ws : Array Value) :
    (h.withCells vs).withCells ws = h.withCells (vs ++ ws) := by
  rw [withCells, withCells, withCells, Array.append_assoc]

/-- Old variables keep their values. -/
theorem Heap.cell_withCells {h : Heap} {a : Nat} (ha : a < h.cells.size) (vs : Array Value) :
    (h.withCells vs).cell a = h.cell a := by
  rw [cell, cell, withCells, Array.getD_eq_getD_getElem?, Array.getD_eq_getD_getElem?,
    Array.getElem?_append_left ha]

/-- New variables have addresses one after the other. -/
theorem newCells_apply (vars : List (Name × Value)) (h : Heap)
    (k : List (Name × Nat) → Heap → Heap × Signal) :
    Action.newCells vars k h = k ((vars.map Prod.fst).zipIdx h.cells.size)
      (h.withCells (vars.map Prod.snd).toArray) := by
  induction vars generalizing h k with
  | nil =>
    rw [Action.newCells]
    exact congrArg (k []) h.withCells_empty.symm
  | cons var vars ih =>
    obtain ⟨name, v⟩ := var
    have hcell (k : Nat → Heap → Heap × Signal) :
        Action.newCell v k h = k h.cells.size (h.withCells #[v]) := (rfl)
    have hsize : (h.withCells #[v]).cells.size = h.cells.size + 1 := Array.size_push ..
    rw [Action.newCells, Action.bind_apply, hcell, Action.bind_apply, ih, Action.pure_apply, hsize,
      Heap.withCells_withCells]
    simp

theorem length_adjust (n : Nat) (vs : List Value) : (Action.adjust n vs).length = n := by
  simp [Action.adjust]
  omega

/-- A declaration of plain values, none of which has to be closed. -/
def isPlainDeclaration (h : Heap) (env : Value) : Statement → Bool
  | .declare names values _ =>
    names.all (fun n ↦ n.2 ≠ .close) && (plainValues? h env values).isSome
  | _ => false

/-- The names that declarations declare. -/
def declaredNames : List Statement → List Name
  | .declare names _ _ :: rest => names.map Prod.fst ++ declaredNames rest
  | _ => []

/-- The values of the variables that declarations of plain values declare. -/
def declaredValues (h : Heap) (env : Value) : List Statement → List Value
  | .declare names values _ :: rest =>
    Action.adjust names.length ((plainValues? h env values).getD []) ++ declaredValues h env rest
  | _ => []

theorem declaredValues_congr {h h' : Heap} (htables : h'.tables = h.tables) (env : Value)
    (ss : List Statement) : declaredValues h' env ss = declaredValues h env ss := by
  fun_induction declaredValues h env ss with
  | case1 names values line rest ih => rw [declaredValues, ih, plainValues?_congr htables]
  | case2 ss hnot =>
    rw [declaredValues]
    exact hnot

theorem length_declaredValues (h : Heap) (env : Value) (ss : List Statement) :
    (declaredValues h env ss).length = (declaredNames ss).length := by
  fun_induction declaredValues h env ss with
  | case1 names values line rest ih =>
    rw [declaredNames, List.length_append, List.length_append, length_adjust, ih, List.length_map]
  | case2 ss hnot =>
    rw [declaredNames]
    · rfl
    · exact hnot

theorem exec_of_isPlainDeclaration {c : Context} {h : Heap} {env : Value} {s : Statement}
    (hc : c.Sees h env) (hs : isPlainDeclaration h env s = true)
    (k : Effect → Heap → Heap × Signal) :
    Action.exec c s k h = k (.declare ((declaredNames [s]).zipIdx h.cells.size))
      (h.withCells (declaredValues h env [s]).toArray) := by
  cases s with
  | declare names values line =>
    rw [isPlainDeclaration, Bool.and_eq_true, Option.isSome_iff_exists] at hs
    obtain ⟨hnames, vs, hvs⟩ := hs
    have hlength : (names.map Prod.fst).length = (Action.adjust names.length vs).length := by
      rw [length_adjust, List.length_map]
    have hclosing (cells : List (Name × Nat)) :
        ∀ x ∈ (names.map Prod.snd).zip cells, ¬decide (x.1 = .close) = true := by
      intro x hx
      have hmem := (List.of_mem_zip hx).1
      obtain ⟨n, hn, hattribute⟩ := List.mem_map.1 hmem
      have hne := List.all_eq_true.1 hnames n hn
      simpa [← hattribute] using hne
    rw [Action.exec]
    simp only [Action.bind_apply, evalList_of_plainValues? hc hvs, newCells_apply,
      List.map_fst_zip (Nat.le_of_eq hlength), List.map_snd_zip (Nat.le_of_eq hlength.symm),
      List.find?_eq_none.2 (hclosing _), Action.pure_apply, declaredNames, declaredValues, hvs,
      Option.getD_some, List.append_nil]
  | _ => cases hs

/-- The name of the global function that a statement defines. -/
def definedName? : Statement → Option Name
  | .assign [.index (.captured _ 0) (.str name) _] [.function _] _ => some name
  | _ => none

/-- The heap with a function more, which stands in a table under a name. -/
def Heap.withFunction (h : Heap) (f : FunctionObject) (a : Nat) (name : Name) : Heap :=
  (h.newFunction f).2.rawSet a (.str name) (.function h.functions.size)

theorem setIndex_of_no_metatable {h : Heap} {a : Nat} (ha : (h.table a).metatable = none)
    (place : Option Place) (what : Option NameInUse) (name : Name) (v : Value)
    (k : Unit → Heap → Heap × Signal) :
    Action.setIndex place what (.table a) (.str name) v k h =
      k () (h.rawSet a (.str name) v) := by
  have hlimit : Action.metaLimit = 1999 + 1 := rfl
  rw [Action.setIndex, hlimit, Action.setIndexLoop]
  simp [ha, Action.rawSet, Value.toKey?, Value.isNil]

/-- The function that the last one of some statements defines. -/
def definedBody? (ss : List Statement) : Option FunctionBody :=
  match ss.getLast? with
  | some (.assign _ [.function body] _) => some body
  | _ => none

/-- The heap that statements leave that set up: it has their variables, and the function `body`. -/
def Heap.afterSetup (h : Heap) (g : Nat) (name : Name) (body : FunctionBody) (scope : Scope)
    (captured : Array Nat) (ss : List Statement) : Heap :=
  let c : Context :=
    ⟨((declaredNames ss).zipIdx h.cells.size).reverse ++ scope, captured, [], .empty⟩
  (h.withCells (declaredValues h (.table g) ss).toArray).withFunction
    (.script body (body.info.captures.map fun p ↦ c.captureAddress p.2).toArray) g name

theorem afterSetup_cons {h : Heap} {g : Nat} {env : Value} {s : Statement}
    (hs : isPlainDeclaration h env s = true) (name : Name) (body : FunctionBody)
    (scope : Scope) (captured : Array Nat) (rest : List Statement) :
    (h.withCells (declaredValues h (.table g) [s]).toArray).afterSetup g name body
        (((declaredNames [s]).zipIdx h.cells.size).reverse ++ scope) captured rest =
      h.afterSetup g name body scope captured (s :: rest) := by
  cases s with
  | declare names values line =>
    have htables (vs : Array Value) : (h.withCells vs).tables = h.tables := rfl
    have hnames : declaredNames (.declare names values line :: rest) =
        declaredNames [.declare names values line] ++ declaredNames rest := by
      simp only [declaredNames, List.append_nil]
    have hvalues : declaredValues h (.table g) (.declare names values line :: rest) =
        declaredValues h (.table g) [.declare names values line] ++
          declaredValues h (.table g) rest := by
      simp only [declaredValues, List.append_nil]
    have hsize : (h.withCells
        (declaredValues h (.table g) [.declare names values line]).toArray).cells.size =
          h.cells.size + (declaredNames [.declare names values line]).length := by
      simp only [Heap.withCells, Array.size_append, List.size_toArray, length_declaredValues]
    rw [Heap.afterSetup, Heap.afterSetup, declaredValues_congr (htables _), hsize,
      Heap.withCells_withCells, hnames, hvalues, List.zipIdx_append, List.reverse_append]
    simp only [List.append_assoc, List.append_toArray]
  | _ => cases hs

theorem exec_of_definedName? {c : Context} {h : Heap} {g : Nat} {s : Statement} {name : Name}
    (hc : c.Sees h (.table g)) (hg : (h.table g).metatable = none)
    (hs : definedName? s = some name) :
    ∃ body, definedBody? [s] = some body ∧
      ∀ k, Action.exec c s k h = k .next (h.afterSetup g name body c.scope c.captured [s]) := by
  fun_cases definedName? s with
  | case1 env name' l body line =>
    obtain rfl : name' = name := by simpa [definedName?] using hs
    rw [Context.Sees] at hc
    refine ⟨body, rfl, fun k ↦ ?_⟩
    have hnothing : (h.withCells
        (declaredValues h (.table g) [.assign [.index (.captured env 0) (.str name') l]
          [.function body] line]).toArray) = h := h.withCells_empty
    rw [Action.exec, Heap.afterSetup, hnothing]
    simp only [Action.evalTarget, Action.evalPart, Context.lateAddress?, Action.bind_apply,
      Action.first_apply, Action.eval, Action.pure_apply, Action.read_apply, hc,
      Action.makeFunction, Action.modifyGet_apply, Action.store, Action.Late.get, List.headD_cons]
    have hg' (f : FunctionObject) : ((h.newFunction f).2.table g).metatable = none := hg
    rw [setIndex_of_no_metatable (hg' _)]
    rfl
  | case2 => simp_all [definedName?]

/-! ### Running such chunks -/

/-- Statements that declare plain values and at last define the global function with a name. -/
def isSetup (h : Heap) (env : Value) (name : Name) : List Statement → Bool
  | [] => false
  | [s] => definedName? s = some name
  | s :: s' :: rest => isPlainDeclaration h env s && isSetup h env name (s' :: rest)

theorem isPlainDeclaration_congr {h h' : Heap} (htables : h'.tables = h.tables) (env : Value)
    (s : Statement) : isPlainDeclaration h' env s = isPlainDeclaration h env s := by
  cases s <;> simp only [isPlainDeclaration, plainValues?_congr htables]

theorem isSetup_congr {h h' : Heap} (htables : h'.tables = h.tables) (env : Value) (name : Name)
    (ss : List Statement) : isSetup h' env name ss = isSetup h env name ss := by
  fun_induction isSetup h env name ss with
  | case1 => rfl
  | case2 => rfl
  | case3 s s' rest ih => rw [isSetup, isPlainDeclaration_congr htables, ih]

/-- The scope behind an effect that only declares. -/
def Effect.scopeBehind (e : Effect) (scope : Scope) : Scope :=
  match e with
  | .declare vars => vars.reverse ++ scope
  | _ => scope

/-- The turn in which the statements `rest` of a chunk are still to be carried out, after the last
statement had the effect `e`. -/
def setupTurn (m : Machine) (f : Frame) (a : Activation) (body : Block) (scope : Scope)
    (rest : List Statement) (h : Heap) (e : Effect) : Turn :=
  .go { m with
    frames := [{ f with activation := some { a with
      scope := scope, control := [.block rest body [] []] } }, Machine.hostFrame] } h (.effect e)

/-- Effects of statements that set up. -/
inductive Effect.Plain : Effect → Prop
  | next : Plain .next
  | declare (vars : List (Name × Nat)) : Plain (.declare vars)

variable {m : Machine} {f : Frame} {a : Activation} {body : Block} {scope : Scope}
  {rest : List Statement} {h : Heap} {e : Effect}

/-- A statement that needs nothing but the heap takes one step. -/
theorem leads_setupTurn {s : Statement} {e' : Effect} {h' : Heap} (he : e.Plain)
    (hroom : h.Roomy 0)
    (hs : ∀ k, Action.exec ⟨e.scopeBehind scope, a.captured, a.varargs, a.info.source⟩ s k h =
      k e' h') :
    Leads 1 (setupTurn m f a body scope (s :: rest) h e)
      (setupTurn m f a body (e.scopeBehind scope) rest h' e') := by
  refine .step ?_
  rw [Machine.step, performWithin_of_roomy hroom]
  cases he with
  | next =>
    simp only [Effect.scopeBehind] at hs ⊢
    simp only [Machine.perform, Activation.apply, Activation.next, Activation.context]
    rw [hs]
    exact .refl _
  | declare vars =>
    simp only [Effect.scopeBehind] at hs ⊢
    simp only [Machine.perform, Activation.apply, Activation.declare, Activation.next,
      Activation.context]
    rw [hs]
    exact .refl _

/-- A chunk without any more statements returns to the host. -/
theorem leads_setupTurn_nil (hroom : h.Roomy 0) :
    Leads 2 (setupTurn m f a body scope [] h .next) (.stop { m with frames := [] } h (.returned []))
    := by
  have hend : Machine.perform { m with
      frames := [{ f with activation := some { a with
        scope := scope, control := [.block [] body [] []] } }, Machine.hostFrame] } h .next =
      .go { m with
        frames := [{ f with activation := some { a with scope := [], control := [] } },
          Machine.hostFrame] } h (.effect .next) := rfl
  refine .step ?_
  rw [Machine.step, performWithin_of_roomy hroom, hend]
  refine .step ?_
  rw [Machine.step, performWithin_of_roomy hroom]
  exact .refl _

/-- A chunk that sets up returns nothing. It leaves its variables, and the function that it
defines. -/
theorem leads_of_isSetup {g : Nat} {name : Name} (he : e.Plain) (hroom : h.Roomy 80)
    (hcell : a.captured.getD 0 0 < h.cells.size) (henv : h.cell (a.captured.getD 0 0) = .table g)
    (hg : (h.table g).metatable = none) (hsetup : isSetup h (.table g) name rest = true) :
    ∃ body', definedBody? rest = some body' ∧
      Leads (rest.length + 2) (setupTurn m f a body scope rest h e)
        (.stop { m with frames := [] }
          (h.afterSetup g name body' (e.scopeBehind scope) a.captured rest) (.returned [])) := by
  -- Declarations leave tables and old variables alone, so all that is assumed of the heap is kept.
  induction rest generalizing scope h e with
  | nil => exact nomatch hsetup
  | cons s rest ih =>
    have hroom0 : h.Roomy 0 := hroom.mono rfl (by omega)
    cases rest with
    | nil =>
      obtain ⟨body', hbody, hexec⟩ := exec_of_definedName?
        (c := ⟨e.scopeBehind scope, a.captured, a.varargs, a.info.source⟩) henv hg
        (by simpa [isSetup] using hsetup)
      have hroom' : (h.afterSetup g name body' (e.scopeBehind scope) a.captured [s]).Roomy 0 :=
        hroom.mono rfl (by
          simp only [Heap.afterSetup, Heap.withFunction, Heap.newFunction, Heap.rawSet]
          exact Nat.le_of_eq rfl)
      exact ⟨body', hbody, (leads_setupTurn he hroom0 hexec).trans (leads_setupTurn_nil hroom')⟩
    | cons s' rest =>
      rw [isSetup, Bool.and_eq_true] at hsetup
      have hexec := exec_of_isPlainDeclaration
        (c := ⟨e.scopeBehind scope, a.captured, a.varargs, a.info.source⟩) henv hsetup.1
      let h' : Heap := h.withCells (declaredValues h (.table g) [s]).toArray
      have hcell' : a.captured.getD 0 0 < h'.cells.size :=
        Nat.lt_of_lt_of_le hcell (by simp [h', Heap.withCells])
      have htables : h'.tables = h.tables := rfl
      have hsetup' := (isSetup_congr htables (.table g) name (s' :: rest)).trans hsetup.2
      have henv' : h'.cell (a.captured.getD 0 0) = .table g :=
        (Heap.cell_withCells hcell _).trans henv
      obtain ⟨body', hbody, hleads⟩ := @ih (e.scopeBehind scope) h' _
        (.declare ((declaredNames [s]).zipIdx h.cells.size)) (hroom.mono rfl (Nat.le_refl _)) hcell'
        henv' hg hsetup'
      refine ⟨body', by rwa [definedBody?, List.getLast?_cons_cons], ?_⟩
      rw [← afterSetup_cons hsetup.1]
      exact (leads_setupTurn he hroom0 hexec).trans hleads

/-! ### Loading and calling such chunks -/

/-- The heap with the function of a chunk of so many bytes; its global variables are in `env`. -/
def Heap.withChunk (h : Heap) (size : Nat) (env : Value) (body : FunctionBody) : Heap :=
  (({ h with used := h.used + 4 * size }.newCell env).2.newFunction
    (.script body #[h.cells.size])).2

/-- The heap that a chunk leaves that sets up. -/
def Heap.afterChunk (h : Heap) (size : Nat) (global : Name) (body body' : FunctionBody) : Heap :=
  (h.withChunk size (.table h.registry.globals) body).afterSetup h.registry.globals global body' []
    #[h.cells.size] body.block.statements

theorem compile_of_parse {source text : ByteArray} {env : Value} {body : FunctionBody} {h : Heap}
    (htext : text.data.toList.head? ≠ some 27) (hparse : Parser.parse source 0 text = .ok body)
    (hroom : h.Roomy (4 * text.size)) (k : Except ByteArray Value → Heap → Heap × Signal) :
    Library.compile source text "bt".toUTF8 env 0 k h =
      k (.ok (.function h.functions.size)) (h.withChunk text.size env body) := by
  have hmode : "bt".toUTF8.data.toList = [98, 116] := by decide
  have htextual : (!List.contains [98, 116] (116 : UInt8)) = false := by decide
  rw [Library.compile, if_neg htext, hmode, htextual, if_neg Bool.false_ne_true, Action.bind_apply,
    reserve_of_roomy hroom, hparse]
  rfl

/-- A function without parameters begins with its first statement. -/
theorem beginCall_of_script {m : Machine} {h : Heap} {fa : Nat} {body : FunctionBody}
    {captured : Array Nat} (hf : h.functions[fa]? = some (.script body captured))
    (hparams : body.info.params = []) (hsize : body.info.frameSize ≤ Machine.slotLimit) :
    ∃ f a, a.captured = captured ∧ f.pending = .none ∧ f.slots = body.info.frameSize ∧
      m.beginCall h (.function fa) [] =
        setupTurn { m with waiting := [] } f a body.block [] body.block.statements
          { h with running := 0 } .next := by
  have hcallee : Machine.callee { h with running := 0 } Machine.calleeLimit (.function fa) [] =
      (.function fa, [], .script body captured) := by
    have hlimit : Machine.calleeLimit = 199 + 1 := rfl
    have hf' : { h with running := 0 : Heap }.function? fa = some (.script body captured) := hf
    rw [hlimit, Machine.callee, hf']
  refine ⟨⟨.function fa, none, none, false, body.info.lineDefined, .none, 1, body.info.frameSize⟩,
    ⟨body.info, captured, if body.info.isVararg then [] else [], [], []⟩, rfl, rfl, rfl, ?_⟩
  have hslots : ¬Machine.slotLimit < body.info.frameSize := Nat.not_lt.2 hsize
  have hcall : m.beginCall h (.function fa) [] =
      Machine.enter { m with frames := [Machine.hostFrame], waiting := [] }
        { h with running := 0 } (.function fa) [] {} false 1 := rfl
  have hslots' : Machine.slots { m with frames := [Machine.hostFrame], waiting := [] } = 0 := rfl
  rw [hcall, Machine.enter, hcallee]
  simp only [hslots', List.length_nil, Nat.add_zero, Nat.zero_add, hslots, if_false,
    Machine.beginScript, hparams, Machine.bindParams, List.drop_nil]
  rfl

namespace Interpreter

variable {μ : Type → Type} [Monad μ] [LawfulMonad μ] (respond : Responder μ) {i : Interpreter}

/-- The heap of an interpreter while it works for the host. -/
def workHeap (i : Interpreter) : Heap := { i.heap with running := 0 }

/-- The machine of an interpreter that does not run. -/
def idleMachine (i : Interpreter) : Machine := { i.machine with frames := [], waiting := [] }

theorem finish_of_leads {n : Nat} {t : Turn} {m : Machine} {h : Heap} {e : Ending}
    (ht : Leads n t (.stop m h e)) (hn : n ≤ stepLimit) :
    finish respond t = pure (e, ⟨m, h⟩) := by
  rw [finish, run_of_leads ht hn, pure_bind]

/-- Work that needs nothing but the heap is done at once. -/
theorem work_of_answer (vs : List Value) (h : Heap) {x : Action (List Value)}
    (hx : x (fun vs h ↦ (h, .answer vs)) i.workHeap = (h, .answer vs)) :
    work respond i x = pure (.returned vs, ⟨i.idleMachine, h⟩) := by
  have hends : Leads 1 (.go { i.machine with frames := workFrames, waiting := [] } h (.answer vs))
      (.stop i.idleMachine h (.returned vs)) := .step (.refl _)
  have hwork : work respond i x = finish respond
      (.go { i.machine with frames := workFrames, waiting := [] }
        (x (fun vs h ↦ (h, .answer vs)) i.workHeap).1
        (x (fun vs h ↦ (h, .answer vs)) i.workHeap).2) := rfl
  rw [hwork, hx, finish_of_leads respond hends (by decide)]

theorem load_of_parse {name : String} {source : ByteArray} {body : FunctionBody}
    (hname : zeroByte? name.toUTF8 = none) (hsource : source.data.toList.head? ≠ some 27)
    (hparse : Parser.parse name.toUTF8 0 source = .ok body)
    (hroom : i.heap.Roomy (4 * source.size)) :
    load respond i name source = pure (.ok (.function i.heap.functions.size),
      ⟨i.idleMachine, i.workHeap.withChunk source.size (.table i.globals) body⟩) := by
  have hroom' : i.workHeap.Roomy (4 * source.size) := hroom
  rw [load]
  simp only [hname]
  rw [work_of_answer respond [.function i.heap.functions.size]
    (i.workHeap.withChunk source.size (.table i.globals) body)]
  · simp only [pure_bind, settle]
  · rw [Action.bind_apply, compile_of_parse hsource hparse hroom']
    rfl

/-- **Chunks that set up.** A chunk of plain declarations and the definition of a global function
can be loaded and called whatever the host answers, and it leaves its variables and the function. -/
theorem execute_of_isSetup {name : String} {source : ByteArray} {body : FunctionBody}
    {global : Name} (hname : zeroByte? name.toUTF8 = none)
    (hsource : source.data.toList.head? ≠ some 27)
    (hparse : Parser.parse name.toUTF8 0 source = .ok body)
    (hparams : body.info.params = []) (hsize : body.info.frameSize ≤ Machine.slotLimit)
    (hlength : body.block.statements.length + 2 ≤ stepLimit)
    (hsetup : isSetup i.heap (.table i.globals) global body.block.statements = true)
    (hglobals : (i.heap.table i.globals).metatable = none)
    (hroom : i.heap.Roomy (4 * source.size + 120)) :
    ∃ body', definedBody? body.block.statements = some body' ∧
      execute respond i name source = pure (.ok [], ⟨i.idleMachine,
        i.workHeap.afterChunk source.size global body body'⟩) := by
  have hload := load_of_parse respond hname hsource hparse (hroom.mono rfl (by omega))
  have hafter (body' : FunctionBody) : i.workHeap.afterChunk source.size global body body' =
      (i.workHeap.withChunk source.size (.table i.globals) body).afterSetup i.globals global body' []
        #[i.heap.cells.size] body.block.statements := rfl
  simp only [hafter]
  generalize hheap : i.workHeap.withChunk source.size (.table i.globals) body = h at hload
  have htables : h.tables = i.heap.tables := by rw [← hheap]; rfl
  have hfunction : h.functions[i.heap.functions.size]? =
      some (.script body #[i.heap.cells.size]) := by
    rw [← hheap]
    exact Array.getElem?_push_size
  have hcell : h.cell i.heap.cells.size = .table i.globals := by
    rw [← hheap]
    simp [Heap.cell, Heap.withChunk, Heap.newCell, Heap.newFunction, workHeap]
  have hcells : i.heap.cells.size < h.cells.size := by
    rw [← hheap]
    simp [Heap.withChunk, Heap.newCell, Heap.newFunction, workHeap]
  have hroom' : h.Roomy 80 := hroom.mono (by rw [← hheap]; rfl) (by
    rw [← hheap]
    simp only [Heap.withChunk, Heap.newCell, Heap.newFunction, workHeap]
    omega)
  have hrunning : { h with running := 0 } = h := by rw [← hheap]; rfl
  have htable : h.table i.globals = i.heap.table i.globals := by
    rw [Heap.table, Heap.table, htables]
  obtain ⟨f, a, hc, -, -, hbegin⟩ :=
    beginCall_of_script (m := i.idleMachine) hfunction hparams hsize
  rw [hrunning] at hbegin
  have hcaptured : a.captured.getD 0 0 = i.heap.cells.size := by rw [hc]; rfl
  obtain ⟨body', hbody, hleads⟩ := @leads_of_isSetup i.idleMachine f a body.block []
    body.block.statements h .next i.globals global .next hroom' (by rwa [hcaptured])
    (by rwa [hcaptured]) (by rwa [htable]) ((isSetup_congr htables _ _ _).trans hsetup)
  have hfinish : finish respond (i.idleMachine.beginCall h (.function i.heap.functions.size) []) =
      pure (.returned [], ⟨i.idleMachine, h.afterSetup i.globals global body' []
        #[i.heap.cells.size] body.block.statements⟩) := by
    rw [hbegin, ← hc]
    exact finish_of_leads respond hleads hlength
  refine ⟨body', hbody, ?_⟩
  rw [execute, hload, pure_bind]
  simp only [call]
  rw [hfinish, pure_bind]
  rfl

end Interpreter

end MacroStream.Script
