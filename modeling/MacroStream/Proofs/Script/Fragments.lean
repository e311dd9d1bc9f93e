import MacroStream.Proofs.Script.BalancedPieces
import MacroStream.Proofs.Script.NameLookup

/-!
# Expressions in strings

The function that replaces a piece of a string takes off the braces, makes a table that looks names
up, loads what is between the braces as an expression with that table for its global variables, and
calls it. There is a lemma for each of these statements, and `Running.reaches_expression` puts them
together: the function comes to the expression, and waits for it with five variables in scope.
-/

namespace MacroStream.Script

variable {limit : Nat} {h : Heap}

/-! ### Methods of strings -/

/-- Strings have a library function as a method. -/
def Heap.HasMethod (h : Heap) (name : Name) (p : Primitive) : Prop :=
  ∃ a, h.metafield (.str .empty) MetaName.index = .table a ∧ h.rawGet a (.str name) = .primitive p

theorem index_of_hasMethod {name : Name} {p : Primitive} (hp : h.HasMethod name p)
    (place : Option Place) (what : Option NameInUse) (s : ByteArray)
    (k : Value → Heap → Heap × Signal) :
    Action.index place what (.str s) (.str name) k h = k (.primitive p) h := by
  obtain ⟨a, ha, hname⟩ := hp
  obtain ⟨n, hlimit⟩ : ∃ n, Action.metaLimit = n + 2 := ⟨1998, rfl⟩
  have hhandler : h.metafield (.str s) MetaName.index = .table a := ha
  have hget : (h.table a).getValue (.str name) = .primitive p := hname
  rw [Action.index, hlimit, Action.indexLoop]
  · simp [hhandler, Value.isNil, Value.isFunction, Action.indexLoop, hget]
  · simp

section Computations

variable {m : Nat → Machine} {c : Context}

/-- Without its first and its last byte a piece has no braces. -/
theorem does_sub {code : ByteArray} (hlimit : h.limit = limit) {Q : List Value → Heap → Prop}
    (hQ : ∀ u, Q [.str code] { h with used := u }) :
    (Library.runPrimitive (.string .sub) [.str (Pattern.inBraces code), .int 2, .int (-2)]).Does
      limit m h Q := by
  have hsize : (Pattern.inBraces code).size = code.size + 2 := Pattern.size_inBraces code
  have hstart : Library.startPosition 2 (Pattern.inBraces code).size = 2 := rfl
  have hend : Library.endPosition (-2) (Pattern.inBraces code).size = code.size + 1 := by
    rw [Library.endPosition, hsize]
    have hint : Int64.toInt (-2) = -2 := by decide
    have hneg : ¬(0 : Int64) ≤ -2 := by decide
    rw [hint, if_neg (by omega), if_neg hneg, if_neg (by omega)]
    omega
  have hpiece : (Pattern.inBraces code).extract 1 (code.size + 1) = code := by
    rw [Nat.add_comm]
    exact Text.extract_middle "\x7b".toUTF8 code "\x7d".toUTF8
  have hstring : Action.arg [.str (Pattern.inBraces code), .int 2, .int (-2)] 1 =
      .str (Pattern.inBraces code) := rfl
  have htwo : Action.arg [.str (Pattern.inBraces code), .int 2, .int (-2)] 2 = .int 2 := rfl
  have hminus : Action.arg [.str (Pattern.inBraces code), .int 2, .int (-2)] 3 = .int (-2) := rfl
  show (Library.string .sub _).Does limit m h Q
  rw [Library.string, needBytes_of_arg hstring, needInt_of_arg htwo, optInt_of_arg hminus]
  refine Action.does_bind_of_eq (Action.pure_apply _ · h) ?_
  refine Action.does_bind_of_eq (Action.pure_apply _ · h) ?_
  refine Action.does_bind_of_eq (Action.pure_apply _ · h) ?_
  refine Action.does_reserve hlimit fun u ↦ ?_
  rw [hstart, hend]
  show (pure [Value.str ((Pattern.inBraces code).extract 1 (code.size + 1))] :
    Action (List Value)).Does _ _ _ _
  rw [hpiece]
  exact Action.does_pure (hQ u)

theorem does_setmetatable {a mt : Nat} {Q : List Value → Heap → Prop}
    (ha : (h.table a).metatable = none)
    (hQ : Q [.table a] (h.modifyTable a fun t ↦ { t with metatable := some mt })) :
    (Library.runPrimitive (.base .setmetatable) [.table a, .table mt]).Does limit m h Q := by
  refine Action.does_of_eq (fun k ↦ ?_) hQ
  show Library.setmetatable _ k h = _
  simp [Library.setmetatable, Action.needTable, Action.arg, Action.arg?, Heap.metafield,
    Heap.metatable?, ha, Value.isNil]

theorem growArray_zero (t : Table) : t.growArray 0 = t := if_pos (Nat.zero_le _)

/-- A table without items is left as it is. -/
theorem does_finish_nil {a : Nat} {Q : Value → Heap → Prop} (hlimit : h.limit = limit)
    (hQ : ∀ u, Q (.table a) { h with used := u }) :
    (Action.Building.finish ⟨a, []⟩ []).Does limit m h Q := by
  have hsame (h : Heap) : h.modifyTable a (fun t ↦ t.growArray 0) = h := by
    have hmodify : h.tables.modify a (fun t ↦ t.growArray 0) = h.tables := by
      ext i hi hi'
      · simp
      · rw [Array.getElem_modify]
        split
        case isTrue => exact growArray_zero _
        case isFalse => rfl
    rw [Heap.modifyTable, hmodify]
  refine Action.does_reserve hlimit fun u ↦ Action.does_of_eq (fun k ↦ ?_) (hQ u)
  show k _ (Heap.modifyTable a (fun t ↦ t.growArray 0) _) = _
  rw [hsame]

/-- A new table without entries. -/
theorem does_eval_emptyTable {line : Nat} (hlimit : h.limit = limit)
    {Q : List Value → Heap → Prop}
    (hQ : ∀ h', h.Extends h' → h'.tables.size = h.tables.size + 1 →
      h'.table h.tables.size = .withRoom 0 0 → Q [.table h.tables.size] h') :
    (Action.eval c (.table [] line)).Does limit m h Q := by
  rw [Action.eval]
  refine Action.does_reserve hlimit fun u ↦ ?_
  refine Action.does_bind_of_eq (Action.modifyGet_apply _ · _) ?_
  rw [Action.evalItems]
  refine Action.Does.bind (Q := fun v h' ↦ Q [v] h') ?_ fun v h' hv ↦ Action.does_pure hv
  refine does_finish_nil hlimit fun u' ↦ hQ _ ?_ ?_ ?_
  · exact (Heap.Extends.used h u).trans ((Heap.Extends.newTable _ _).trans (.used _ u'))
  · exact Heap.size_tables_newTable (.withRoom 0 0) h
  · exact (Heap.table_newTable (.withRoom 0 0) h _).trans (if_pos rfl)

/-- A new table that has a function under a name. -/
theorem does_eval_functionTable {line line' : Nat} {name : Name} {body : FunctionBody}
    (hlimit : h.limit = limit) {Q : List Value → Heap → Prop}
    (hQ : ∀ h' f, h.Extends h' → h.tables.size < h'.tables.size →
      h'.table h.tables.size = .withRoom 0 1 → h'.function? f = some (.script body
        (body.info.captures.map fun p ↦ c.captureAddress p.2).toArray) →
      ∀ u, Q [.table h.tables.size]
        { h'.rawSet h.tables.size (.str name) (.function f) with used := u }) :
    (Action.eval c (.table [.field (.str name) (.function body) line'] line)).Does limit m h Q := by
  rw [Action.eval]
  refine Action.does_reserve hlimit fun u ↦ ?_
  refine Action.does_bind_of_eq (Action.modifyGet_apply _ · _) ?_
  have hkey (k : Value → Heap → Heap × Signal) (h : Heap) :
      Action.first (Action.eval c (.str name)) k h = k (.str name) h := by
    rw [Action.eval]
    rfl
  have hvalue (k : Value → Heap → Heap × Signal) (h : Heap) :
      Action.first (Action.eval c (.function body)) k h = k (.function h.functions.size)
        (h.newFunction
          (.script body (body.info.captures.map fun p ↦ c.captureAddress p.2).toArray)).2 := by
    rw [Action.eval]
    rfl
  refine Action.Does.bind (Q := fun v h' ↦ Q [v] h') ?_ fun v h' hv ↦ Action.does_pure hv
  rw [Action.evalItems]
  refine Action.does_bind_of_eq (hkey · _) (Action.does_bind_of_eq (hvalue · _) ?_)
  refine Action.does_bind_of_eq (Action.update_apply _ · _) ?_
  rw [Action.evalItems]
  refine does_finish_nil hlimit (hQ (Heap.newFunction _ (Heap.newTable (.withRoom 0 1)
    { h with used := u }).2).2 _ ?_ ?_ ?_ ?_)
  · exact (Heap.Extends.used h u).trans ((Heap.Extends.newTable _ _).trans (.newFunction _ _))
  · exact Nat.lt_of_lt_of_eq (Nat.lt_succ_self _) (Heap.size_tables_newTable _ _).symm
  · exact (Heap.table_newTable (.withRoom 0 1) { h with used := u } _).trans (if_pos rfl)
  · exact Array.getElem?_push_size

/-- Strings are joined from the right. -/
theorem does_concatOnto {place : Option Place} {rest : List (Value × Option NameInUse)}
    {ss : List ByteArray} {acc : ByteArray} {name : Option NameInUse} {Q : Value → Heap → Prop}
    (hlimit : h.limit = limit) (hrest : rest.map Prod.fst = ss.map Value.str)
    (hQ : ∀ u, Q (.str (ss.foldl (fun acc s ↦ s ++ acc) acc)) { h with used := u }) :
    (Action.concatOnto place (.str acc) name rest).Does limit m h Q := by
  induction rest generalizing ss acc name h with
  | nil =>
    obtain rfl : ss = [] := by simpa using hrest.symm
    rw [Action.concatOnto]
    exact Action.does_pure (hQ h.used)
  | cons v rest ih =>
    obtain ⟨v, nameV⟩ := v
    cases ss with
    | nil => simp at hrest
    | cons s ss =>
      obtain ⟨rfl, hss⟩ : v = .str s ∧ rest.map Prod.fst = ss.map Value.str := by
        simpa using hrest
      rw [Action.concatOnto]
      refine Action.Does.bind (Q := fun v h' ↦ v = .str (s ++ acc) ∧ ∃ u, h' = { h with used := u })
        ?_ ?_
      · exact Action.does_reserve hlimit fun u ↦ Action.does_pure ⟨rfl, u, rfl⟩
      · rintro _ _ ⟨rfl, u, rfl⟩
        exact ih hlimit hss fun u' ↦ hQ u'

theorem does_eval_concat {operands : List Expr} {line : Nat} {ss rest : List ByteArray}
    {last : ByteArray} {Q : List Value → Heap → Prop} (hlimit : h.limit = limit)
    (hvalues : ∀ k, Action.evalEach c operands k h = k (ss.map Value.str) h)
    (hlength : ss.length = operands.length) (hss : ss.reverse = last :: rest)
    (hQ : ∀ u, Q [.str (rest.foldl (fun acc s ↦ s ++ acc) last)] { h with used := u }) :
    (Action.eval c (.concat operands line)).Does limit m h Q := by
  rw [Action.eval]
  refine Action.does_bind_of_eq hvalues ?_
  refine Action.Does.bind (Q := fun v h' ↦ Q [v] h') ?_ fun v h' hv ↦ Action.does_pure hv
  have hfirst : (((ss.map Value.str).zip (operands.map Expr.nameInUse)).reverse).map Prod.fst =
      (last :: rest).map Value.str := by
    rw [List.map_reverse, List.map_fst_zip (by simp [hlength]), ← List.map_reverse, hss]
  rw [Action.concatAll]
  cases hzip : ((ss.map Value.str).zip (operands.map Expr.nameInUse)).reverse with
  | nil => simp [hzip] at hfirst
  | cons v vs =>
    obtain ⟨v, name⟩ := v
    obtain ⟨rfl, hvs⟩ : v = .str last ∧ vs.map Prod.fst = rest.map Value.str := by
      simpa [hzip] using hfirst
    exact does_concatOnto hlimit hvs hQ

/-- How deeply calls are nested is known. -/
theorem does_callDepth {d : Nat} {α : Type} {f : Nat → Action α} {R : α → Heap → Prop}
    (hd : ∀ line, (m line).depth = d) (hf : (f d).Does limit m h R) :
    (Library.callDepth >>= f).Does limit m h R := by
  intro P k hk line
  refine Turn.Reaches.step ?_
  show ((m line).tell (f (m line).depth k h)).Reaches limit P
  rw [hd]
  exact hf P k hk line

/-- A chunk that can be read is loaded. -/
theorem does_load {d e : Nat} {text name : ByteArray} {body : FunctionBody}
    {Q : List Value → Heap → Prop} (hlimit : h.limit = limit)
    (hd : ∀ line, (m line).depth = d) (htext : text.data.toList.head? ≠ some 27)
    (hparse : Parser.parse (Token.beforeZero name) d text = .ok body)
    (hQ : ∀ u, Q [.function h.functions.size]
      (Heap.newFunction (.script body #[h.cells.size])
        (Heap.newCell (.table e) { h with used := u }).2).2) :
    (Library.runPrimitive (.base .load)
      [.str text, .str name, .str "t".toUTF8, .table e]).Does limit m h Q := by
  have hname : Action.arg [.str text, .str name, .str "t".toUTF8, .table e] 2 = .str name := rfl
  have hmode : Action.arg [.str text, .str name, .str "t".toUTF8, .table e] 3 =
      .str "t".toUTF8 := rfl
  have htextual : (!List.contains "t".toUTF8.data.toList 116) = false := by decide
  show (Library.load _).Does limit m h Q
  rw [Library.load, optBytes_of_arg hmode]
  refine Action.does_bind_of_eq (Action.pure_apply (.table e) · h) ?_
  refine Action.does_bind_of_eq (Action.pure_apply _ · h) ?_
  simp only [Action.arg, List.getD_cons_zero, Nat.sub_self]
  rw [optBytes_of_arg hname]
  refine Action.does_bind_of_eq (Action.pure_apply _ · h) ?_
  refine does_callDepth hd ?_
  rw [Library.compile, if_neg htext]
  simp only [htextual, Bool.false_eq_true, if_false]
  refine Action.Does.bind (Q := fun r h' ↦ Q (Library.valueOrText r) h') ?_ fun r h' hr ↦
    Action.does_pure hr
  refine Action.does_reserve hlimit fun u ↦ ?_
  rw [hparse]
  exact Action.does_of_eq (fun _ ↦ (rfl)) (hQ u)

end Computations

/-! ### The function that replaces a piece -/

/-- The metatable of strings stays as it is. -/
theorem Heap.Extends.stringField_eq {h h' : Heap} (hh : h.Extends h')
    (hne : h.metafield (.str .empty) MetaName.index ≠ .nil) (name : ByteArray) :
    h'.metafield (.str .empty) name = h.metafield (.str .empty) name := by
  simp only [Heap.metafield, Heap.metatable?, hh.grew.typeMetas_eq] at hne ⊢
  cases hlookup : h.typeMetas.lookup (Value.str .empty).typeName with
  | none => rfl
  | some mt =>
    rw [hlookup] at hne
    have hlt : mt < h.tables.size := by
      refine Nat.lt_of_not_le fun hle ↦ hne ?_
      show h.rawGet mt _ = _
      rw [Heap.rawGet, table_of_size_le hle]
      rfl
    show h'.rawGet mt _ = h.rawGet mt _
    rw [Heap.rawGet, Heap.rawGet, hh.grew.table_eq hlt List.not_mem_nil]

theorem Heap.HasMethod.stringField_ne {h : Heap} {name : Name} {p : Primitive}
    (hp : h.HasMethod name p) : h.metafield (.str .empty) MetaName.index ≠ .nil := by
  obtain ⟨a, ha, -⟩ := hp
  simp [ha]

theorem Heap.HasMethod.mono {h h' : Heap} {name : Name} {p : Primitive} (hp : h.HasMethod name p)
    (hh : h.Extends h') : h'.HasMethod name p := by
  have hmeta := hh.stringField_eq hp.stringField_ne MetaName.index
  obtain ⟨a, ha, hname⟩ := hp
  refine ⟨a, hmeta.trans ha, ?_⟩
  rw [hh.rawGet_eq (by simp [hname]), hname]

/-- The captured variables of the function that replaces a piece hold what the chunk gave them, and
it can take a piece apart. -/
structure Heap.CanReplace (h : Heap) (captured : Array Nat) (g : Nat) : Prop where
  setmetatable : h.Holds (captured.getD 0 0) (.primitive (.base .setmetatable))
  level : h.Holds (captured.getD 1 0) (.int (Int64.ofNat 6))
  getinfo : h.Holds (captured.getD 2 0) (.primitive (.debug .getinfo))
  getlocal : h.Holds (captured.getD 3 0) (.primitive (.debug .getlocal))
  rawget : h.Holds (captured.getD 4 0) (.primitive (.base .rawget))
  globals : h.Holds (captured.getD 5 0) (.table g)
  load : h.Holds (captured.getD 6 0) (.primitive (.base .load))
  globals_lt : g < h.tables.size
  sub : h.HasMethod "sub".toUTF8 (.string .sub)

theorem Heap.CanReplace.mono {h h' : Heap} {captured : Array Nat} {g : Nat}
    (hr : h.CanReplace captured g) (hh : h.Extends h') : h'.CanReplace captured g :=
  ⟨hh.cells hr.setmetatable, hh.cells hr.level, hh.cells hr.getinfo, hh.cells hr.getlocal,
    hh.cells hr.rawget, hh.cells hr.globals, hh.cells hr.load,
    Nat.lt_of_lt_of_le hr.globals_lt hh.grew.size_le, hr.sub.mono hh⟩

section Replace

open Interpolation

variable {r : Running} {g : Nat} {scope : Scope} {control : List Control} {P : Turn → Prop}

/-- The name of the chunk that an expression is loaded as. -/
def chunkName (code : ByteArray) : ByteArray :=
  "expression \x60".toUTF8 ++ (code ++ "\x60".toUTF8)

/-- The braces are taken off a piece. -/
theorem does_takeCode {code : ByteArray} {b : Nat} (hlimit : h.limit = limit)
    (hsub : h.HasMethod "sub".toUTF8 (.string .sub))
    (hslots : r.frame.slots + Machine.librarySlots ≤ Machine.slotLimit)
    (hb : h.Holds b (.str (Pattern.inBraces code))) :
    (Action.exec (r.context (("block".toUTF8, b) :: scope)) takeCode).Does limit
      (r.machineAt (("block".toUTF8, b) :: scope) control) h
      fun e h' ↦ ∃ a, e = .declare [("code".toUTF8, a)] ∧ h.Extends h' ∧
        h'.Holds a (.str code) := by
  refine does_declare ["code".toUTF8] ?_
  rw [evalList_singleton, Action.eval]
  have hobject (k : Value → Heap → Heap × Signal) : Action.first (Action.eval
      (r.context (("block".toUTF8, b) :: scope)) (.scope "block".toUTF8 0)) k h =
        k (.str (Pattern.inBraces code)) h := by
    rw [← hb.2, Action.eval]
    rfl
  have hargs (k : List Value → Heap → Heap × Signal) : Action.evalList
      (r.context (("block".toUTF8, b) :: scope)) [.int 2, .int (-2)] k h =
        k [.int 2, .int (-2)] h := by
    simp only [Action.evalList, Action.eval]
    rfl
  refine Action.does_bind_of_eq hobject ?_
  refine Action.does_bind_of_eq (index_of_hasMethod hsub _ _ _) ?_
  refine Action.does_bind_of_eq hargs ?_
  refine Machine.does_call_primitive (fun _ ↦ rfl) hslots fun line pending ↦ ?_
  refine does_sub hlimit fun u ↦ ⟨_, rfl, ?_, ?_⟩
  · exact (Heap.Extends.used h u).trans (.withCells _ _)
  · exact Heap.holds_withCells { h with used := u } [.str code] (i := 0) rfl

/-- An empty table, and one that says where to look names up. -/
structure Heap.HasTables (h h' : Heap) (e mt g : Nat) : Prop where
  old : h.Extends h'
  fresh : h.tables.size ≤ e
  lt : e < h'.tables.size
  ne : e ≠ mt
  metatable : (h'.table e).metatable = none
  empty : ∀ k, h'.rawGet e k = .nil
  index : ∃ f captured, h'.rawGet mt (.str MetaName.index) = .function f ∧
    h'.function? f = some (.script lookup captured) ∧ h'.CanLookUp captured g

theorem Heap.HasTables.setMetatable {h' : Heap} {e mt : Nat} (hh : h.HasTables h' e mt g) :
    h.Extends (h'.modifyTable e fun t ↦ { t with metatable := some mt }) ∧
      (h'.modifyTable e fun t ↦ { t with metatable := some mt }).LooksUp e g ∧
      ∀ k, (h'.modifyTable e fun t ↦ { t with metatable := some mt }).rawGet e k = .nil := by
  obtain ⟨f, captured, hindex, hfun, hlook⟩ := hh.index
  have hmodify := Heap.table_modifyTable hh.lt fun t ↦ { t with metatable := some mt }
  refine ⟨hh.old.modifyTable hh.fresh hh.lt _, ⟨mt, f, captured, ?_, ?_, hfun, ?_⟩, fun k ↦ ?_⟩
  · rw [hmodify, if_pos rfl]
  · rw [Heap.rawGet, hmodify, if_neg hh.ne]
    exact hindex
  · exact ⟨hlook.level, hlook.getinfo, hlook.getlocal, hlook.rawget, hlook.globals,
      Nat.lt_of_lt_of_eq hlook.globals_lt (Heap.size_tables_modifyTable ..).symm⟩
  · rw [Heap.rawGet, hmodify, if_pos rfl]
    exact hh.empty k

theorem Heap.HasTables.mono {h' h'' : Heap} {e mt : Nat} (hh : h.HasTables h' e mt g)
    (hh' : h'.Extends h'') : h.HasTables h'' e mt g := by
  obtain ⟨f, captured, hindex, hfun, hlook⟩ := hh.index
  have htable := hh'.grew.table_eq hh.lt List.not_mem_nil
  refine ⟨hh.old.trans hh', hh.fresh, Nat.lt_of_lt_of_le hh.lt hh'.grew.size_le, hh.ne, ?_,
    fun k ↦ ?_, f, captured, ?_, hh'.grew.function?_eq hfun, hlook.mono hh'⟩
  · rw [htable, hh.metatable]
  · rw [Heap.rawGet, htable]
    exact hh.empty k
  · rw [hh'.rawGet_eq (by simp [hindex]), hindex]

/-- The second table comes after the first one, and has the function that looks names up. -/
theorem Heap.hasTables_rawSet {h' : Heap} {e mt f : Nat} {captured : Array Nat}
    (hold : h.Extends h') (hfresh : h.tables.size ≤ e) (hlt : e < mt) (hmt : mt < h'.tables.size)
    (hempty : h'.table e = .withRoom 0 0) (hnew : h'.table mt = .withRoom 0 1)
    (hfun : h'.function? f = some (.script lookup captured)) (hlook : h'.CanLookUp captured g) :
    h.HasTables (h'.rawSet mt (.str MetaName.index) (.function f)) e mt g := by
  have htables := Heap.table_rawSet hmt (.str MetaName.index) (.function f)
  have he : (h'.rawSet mt (.str MetaName.index) (.function f)).table e = .withRoom 0 0 := by
    rw [htables, if_neg (by omega), hempty]
  refine ⟨hold.rawSet (by omega) hmt _ _, hfresh, ?_, by omega, ?_, fun k ↦ ?_, f, captured, ?_,
    hfun, ?_⟩
  · rw [Heap.size_tables_rawSet]
    omega
  · rw [he]
    rfl
  · rw [Heap.rawGet, he]
    rfl
  · rw [Heap.rawGet, htables, if_pos rfl, hnew]
    exact Table.get_set_self KeyMap.lawful_empty _ _
  · exact ⟨hlook.level, hlook.getinfo, hlook.getlocal, hlook.rawget, hlook.globals,
      Nat.lt_of_lt_of_eq hlook.globals_lt (Heap.size_tables_rawSet ..).symm⟩

theorem does_tables (hlimit : h.limit = limit) (hreplace : h.CanReplace r.activation.captured g) :
    (Action.evalList (r.context scope)
      [.table [] 13, .table [.field (.str "__index".toUTF8) (.function lookup) 30] 13]).Does limit
        (r.machineAt scope control) h
        fun vs h' ↦ ∃ e mt, vs = [.table e, .table mt] ∧ h.HasTables h' e mt g := by
  refine does_evalList_cons (does_eval_emptyTable hlimit fun h' hh hsize htable ↦ ?_)
  rw [evalList_singleton]
  refine does_eval_functionTable (hh.limit_eq.trans hlimit) fun h'' f hh' hlt hnew hfun u ↦ ?_
  have hlook : h''.CanLookUp (lookup.info.captures.map fun p ↦
      (r.context scope).captureAddress p.2).toArray g :=
    have hreplace := hreplace.mono (hh.trans hh')
    ⟨hreplace.level, hreplace.getinfo, hreplace.getlocal, hreplace.rawget, hreplace.globals,
      hreplace.globals_lt⟩
  have hempty : h''.table h.tables.size = .withRoom 0 0 := by
    rw [hh'.grew.table_eq (by omega) List.not_mem_nil, htable]
  refine ⟨_, _, rfl, Heap.HasTables.mono ?_ (.used _ u)⟩
  exact Heap.hasTables_rawSet (hh.trans hh') (Nat.le_refl _) (by omega) hlt hempty hnew hfun hlook

/-- The environment of an expression is an empty table that looks names up. -/
theorem does_makeEnvironment (hlimit : h.limit = limit)
    (hreplace : h.CanReplace r.activation.captured g)
    (hslots : r.frame.slots + Machine.librarySlots ≤ Machine.slotLimit) :
    (Action.exec (r.context scope) makeEnvironment).Does limit (r.machineAt scope control) h
      fun effect h' ↦ ∃ a e, effect = .declare [("env".toUTF8, a)] ∧ h.Extends h' ∧
        h'.Holds a (.table e) ∧ h'.LooksUp e g ∧ ∀ k, h'.rawGet e k = .nil := by
  refine does_declare ["env".toUTF8] ?_
  rw [evalList_singleton, Action.eval]
  have hfunction (k : Value → Heap → Heap × Signal) : Action.first (Action.eval
      (r.context scope) (.captured "setmetatable".toUTF8 0)) k h =
        k (.primitive (.base .setmetatable)) h := by
    rw [← hreplace.setmetatable.2, Action.eval]
    rfl
  refine Action.does_bind_of_eq hfunction ((does_tables hlimit hreplace).bind ?_)
  rintro _ h' ⟨e, mt, rfl, hh⟩
  obtain ⟨hold, hlooks, hempty⟩ := hh.setMetatable
  refine Machine.does_call_primitive (fun _ ↦ rfl) hslots fun line pending ↦ ?_
  refine does_setmetatable hh.metatable ⟨_, e, rfl, hold.trans (.withCells _ _), ?_, ?_, hempty⟩
  · exact Heap.holds_withCells _ [.table e] (i := 0) rfl
  · exact hlooks.mono (.withCells _ _)

/-- What the function gives to `load` for a piece. -/
theorem does_loadArgs {code : ByteArray} {a b e : Nat} (hlimit : h.limit = limit)
    (hcode : h.Holds a (.str code)) (henv : h.Holds b (.table e)) {Q : List Value → Heap → Prop}
    (hQ : ∀ u, Q [.str ("return ".toUTF8 ++ code), .str (chunkName code), .str "t".toUTF8, .table e]
      { h with used := u }) :
    (Action.evalList (r.context (("env".toUTF8, b) :: ("code".toUTF8, a) :: scope))
      [.concat [.str "return ".toUTF8, .scope "code".toUTF8 1] 31,
        .concat [.str "expression \x60".toUTF8, .scope "code".toUTF8 1, .str "\x60".toUTF8] 31,
        .str "t".toUTF8, .scope "env".toUTF8 0]).Does limit
      (r.machineAt (("env".toUTF8, b) :: ("code".toUTF8, a) :: scope) control) h Q := by
  have htext (k : List Value → Heap → Heap × Signal) : Action.evalEach
      (r.context (("env".toUTF8, b) :: ("code".toUTF8, a) :: scope))
      [.str "return ".toUTF8, .scope "code".toUTF8 1] k h =
        k (["return ".toUTF8, code].map Value.str) h := by
    simp only [Action.evalEach, Action.eval, List.map_cons, List.map_nil]
    rw [← hcode.2]
    rfl
  have hname (u : Nat) (k : List Value → Heap → Heap × Signal) : Action.evalEach
      (r.context (("env".toUTF8, b) :: ("code".toUTF8, a) :: scope))
      [.str "expression \x60".toUTF8, .scope "code".toUTF8 1, .str "\x60".toUTF8] k
        { h with used := u } =
        k (["expression \x60".toUTF8, code, "\x60".toUTF8].map Value.str) { h with used := u } := by
    simp only [Action.evalEach, Action.eval, List.map_cons, List.map_nil]
    rw [← hcode.2]
    rfl
  have hrest (u : Nat) (k : List Value → Heap → Heap × Signal) : Action.evalList
      (r.context (("env".toUTF8, b) :: ("code".toUTF8, a) :: scope))
      [.str "t".toUTF8, .scope "env".toUTF8 0] k { h with used := u } =
        k [.str "t".toUTF8, .table e] { h with used := u } := by
    simp only [Action.evalList, Action.eval]
    rw [← henv.2]
    rfl
  refine does_evalList_cons (does_eval_concat hlimit htext rfl rfl fun u ↦ ?_)
  refine does_evalList_cons (does_eval_concat hlimit (hname u) rfl rfl fun u' ↦ ?_)
  exact Action.does_of_eq (hrest u') (hQ u')

/-- The text of a piece is loaded as an expression. -/
theorem does_loadCode {code : ByteArray} {body : FunctionBody} {a b e : Nat}
    (hlimit : h.limit = limit) (hreplace : h.CanReplace r.activation.captured g)
    (hslots : r.frame.slots + Machine.librarySlots ≤ Machine.slotLimit)
    (hcode : h.Holds a (.str code)) (henv : h.Holds b (.table e))
    (hparse : Parser.parse (Token.beforeZero (chunkName code)) r.frame.depth
      ("return ".toUTF8 ++ code) = .ok body) :
    (Action.exec (r.context (("env".toUTF8, b) :: ("code".toUTF8, a) :: scope)) loadCode).Does limit
      (r.machineAt (("env".toUTF8, b) :: ("code".toUTF8, a) :: scope) control) h
      fun effect h' ↦ ∃ n f cell, effect = .declare [("fn".toUTF8, n), ("err".toUTF8, n + 1)] ∧
        h.Extends h' ∧ h'.Holds n (.function f) ∧ h'.function? f = some (.script body #[cell]) ∧
        h'.Holds cell (.table e) := by
  refine does_declare ["fn".toUTF8, "err".toUTF8] ?_
  rw [evalList_singleton, Action.eval]
  have hfunction (k : Value → Heap → Heap × Signal) : Action.first (Action.eval
      (r.context (("env".toUTF8, b) :: ("code".toUTF8, a) :: scope)) (.captured "load".toUTF8 6))
        k h = k (.primitive (.base .load)) h := by
    rw [← hreplace.load.2, Action.eval]
    rfl
  have hreturn : "return ".toUTF8.data.toList = [114, 101, 116, 117, 114, 110, 32] := by decide
  have hfirst : ("return ".toUTF8 ++ code).data.toList.head? ≠ some 27 := by
    rw [ByteArray.data_append, Array.toList_append, hreturn]
    simp
  refine Action.does_bind_of_eq hfunction (Action.Does.bind (Q := fun vs h' ↦ ∃ u,
    vs = [.str ("return ".toUTF8 ++ code), .str (chunkName code), .str "t".toUTF8, .table e] ∧
      h' = { h with used := u }) (does_loadArgs hlimit hcode henv fun u ↦ ⟨u, rfl, rfl⟩) ?_)
  rintro _ _ ⟨u, rfl, rfl⟩
  refine Machine.does_call_primitive (fun _ ↦ rfl) hslots fun line pending ↦ ?_
  refine does_load (d := r.frame.depth) hlimit (fun _ ↦ rfl) hfirst hparse fun u' ↦ ?_
  let loaded : Heap := (Heap.newFunction (.script body #[h.cells.size])
    (Heap.newCell (.table e) { h with used := u' }).2).2
  have hcell : loaded.Holds h.cells.size (.table e) :=
    Heap.holds_withCells { h with used := u' } [.table e] (i := 0) rfl
  have hloaded : h.Extends loaded :=
    (Heap.Extends.used h u').trans ((Heap.Extends.withCells _ #[.table e]).trans (.newFunction _ _))
  have hdeclared : loaded.Extends (loaded.withCells #[.function h.functions.size, .nil]) :=
    .withCells _ _
  refine ⟨loaded.cells.size, h.functions.size, h.cells.size, rfl, hloaded.trans hdeclared, ?_, ?_,
    hdeclared.cells hcell⟩
  · exact Heap.holds_withCells _ [.function h.functions.size, .nil] (i := 0) rfl
  · exact Array.getElem?_push_size

/-- The loaded expression is called. -/
theorem exec_evaluateCode {n n' f : Nat} (hn : h.Holds n (.function f))
    (k : Effect → Heap → Heap × Signal) :
    ∃ k', Action.exec (r.context (("err".toUTF8, n') :: ("fn".toUTF8, n) :: scope)) evaluateCode k
      h = (h, .call (.function f) [] ⟨35, some ("local", "fn".toUTF8)⟩ k') := by
  rw [← hn.2, evaluateCode, Action.exec, evalList_singleton, Action.eval]
  simp only [Action.bind_apply, Action.first_apply, Action.eval, Action.evalList]
  exact ⟨_, rfl⟩

/-- There is an expression, so the function does not give up. -/
theorem does_refuseCode {n n' f : Nat} (hn : h.Holds n (.function f)) {Q : Effect → Heap → Prop}
    (hQ : Q (.enter (.mk [] [])) h) :
    (Action.exec (r.context (("err".toUTF8, n') :: ("fn".toUTF8, n) :: scope)) refuseCode).Does
      limit (r.machineAt (("err".toUTF8, n') :: ("fn".toUTF8, n) :: scope) control) h Q := by
  refine does_if (b := false) (fun k ↦ ?_) hQ
  rw [Action.eval]
  simp only [Action.bind_apply, Action.first_apply, Action.eval, Action.pure_apply,
    Action.read_apply]
  have hvalue : h.cell ((r.context
      (("err".toUTF8, n') :: ("fn".toUTF8, n) :: scope)).address 1) = .function f := hn.2
  rw [hvalue]
  rfl

/-- The turn begins the function of an expression, on top of the functions `below`. It finds its
global variables in the empty table `e`, which looks names up. -/
def Turn.BeginsExpression (m : Machine) (below : List Frame) (body : FunctionBody) (e g : Nat)
    (t : Turn) : Prop :=
  ∃ (r : Running) (scope : Scope) (line : Nat) (h : Heap),
    t = .go (r.machineAt scope [.block body.block.statements body.block [] []] line) h
      (.effect .next) ∧
    r.machine = m ∧ r.below = below ∧ r.activation.info = body.info ∧
    h.Holds (r.activation.captured.getD 0 0) (.table e) ∧ h.LooksUp e g ∧
    ∀ k, h.rawGet e k = .nil

/-- The names of the variables of a function, the oldest first. -/
def Frame.localNames (f : Frame) : List Name := f.view.locals.map Prod.fst

/-- The names that the function that replaces a piece has in scope when it calls the expression. -/
def replacementNames : List Name :=
  ["block".toUTF8, "code".toUTF8, "env".toUTF8, "fn".toUTF8, "err".toUTF8]

/-- What the function that replaces a piece has in scope when it calls the expression. -/
def evaluationScope (b a c n : Nat) : Scope :=
  [("err".toUTF8, n + 1), ("fn".toUTF8, n), ("env".toUTF8, c), ("code".toUTF8, a),
    ("block".toUTF8, b)]

/-- The function comes to the beginning of the expression that it has loaded. -/
theorem Running.reaches_evaluateCode {body : FunctionBody} {b a c n f cell e : Nat}
    {left : List Statement} {whole : Block} {outer : Scope} (hlimit : h.limit = limit)
    (hdepth : r.frame.depth + 1 < Machine.depthLimit)
    (hroom : r.frame.slots + body.info.frameSize ≤ Machine.slotLimit)
    (hn : h.Holds n (.function f)) (hfun : h.function? f = some (.script body #[cell]))
    (hcell : h.Holds cell (.table e)) (hlooks : h.LooksUp e g) (hempty : ∀ k, h.rawGet e k = .nil)
    (hP : ∀ (t : Turn) (f : Frame), f.localNames = replacementNames →
      f.function = r.frame.function →
        t.BeginsExpression r.machine (f :: r.below) body e g → P t) :
    r.Reaches limit P (evaluationScope b a c n)
      (.block (evaluateCode :: left) whole outer [] :: control) .next h := by
  let control' : List Control := .block left whole outer [] :: control
  refine ⟨hlimit, fun line u ↦ ?_⟩
  have hused := Heap.Extends.used h u
  let frame : Frame := r.frameAt (evaluationScope b a c n) control'
  let site : CallSite := ⟨35, some ("local", "fn".toUTF8)⟩
  have hroom' : frame.slots + (body.info.frameSize + [].length (α := Value)) ≤ Machine.slotLimit :=
    hroom
  have hnests (line : Nat) : (r.machine.stacked frame r.below line).nests site = false := rfl
  obtain ⟨k', hexec⟩ : ∃ k', Action.exec (r.context (evaluationScope b a c n)) evaluateCode
      (fun effect h ↦ (h, .effect effect)) { h with used := u } =
        ({ h with used := u }, .call (.function f) [] site k') :=
    exec_evaluateCode (hused.cells hn) _
  obtain ⟨l, hstep⟩ := Machine.exists_step_call_script (hused.grew.function?_eq hfun) hnests hdepth
    hroom' k' line
  show (Machine.tell (r.machineAt (evaluationScope b a c n) control' line)
    (Action.exec (r.context (evaluationScope b a c n)) evaluateCode
      (fun effect h ↦ (h, .effect effect)) { h with used := u })).Reaches limit _
  rw [hexec]
  refine Turn.Reaches.step ?_
  rw [Running.machineAt, hstep]
  have hbegun := hused.trans (Heap.Extends.withCells { h with used := u }
    (Action.adjust body.info.params.length []).toArray)
  refine Turn.Reaches.here (hP _
    (frame.waiting l (.values k')) rfl rfl
      ⟨.begun r.machine _ _ body _ _ _ _ _ _, _, _, _, rfl, rfl, rfl, rfl, hbegun.cells hcell,
        hlooks.mono hbegun, fun k ↦ ?_⟩)
  rw [Heap.rawGet, hbegun.grew.table_eq hlooks.lt_size List.not_mem_nil]
  exact hempty k

/-- The statements of the function that replaces a piece, after it has taken off the braces. -/
def evaluation : List Statement :=
  [makeEnvironment, loadCode, refuseCode, evaluateCode, answerText]

/-- The function that replaces a piece loads the expression. -/
theorem Running.reaches_loaded {code : ByteArray} {body : FunctionBody} {a b : Nat}
    (hlimit : h.limit = limit) (hreplace : h.CanReplace r.activation.captured g)
    (hslots : r.frame.slots + Machine.librarySlots ≤ Machine.slotLimit) (ha : h.Holds a (.str code))
    (hparse : Parser.parse (Token.beforeZero (chunkName code)) r.frame.depth
      ("return ".toUTF8 ++ code) = .ok body)
    (hP : ∀ (c n f cell e : Nat) (h' : Heap), h.Extends h' → h'.Holds n (.function f) →
      h'.function? f = some (.script body #[cell]) → h'.Holds cell (.table e) → h'.LooksUp e g →
      (∀ k, h'.rawGet e k = .nil) → r.Reaches limit P (evaluationScope b a c n)
        [.block [evaluateCode, answerText] replace.block [] []] .next h') :
    r.Reaches limit P [("code".toUTF8, a), ("block".toUTF8, b)]
      [.block evaluation replace.block [] []] .next h := by
  refine Running.reaches_next hlimit fun u ↦ ?_
  have hused := Heap.Extends.used h u
  have hreplace₁ := hreplace.mono hused
  refine (does_makeEnvironment (hused.limit_eq.trans hlimit) hreplace₁ hslots).mono ?_
  rintro _ h₁ ⟨c, e, rfl, hh₁, henv, hlooks, hempty⟩
  have hold₁ : h.Extends h₁ := hused.trans hh₁
  refine Running.reaches_declare (Running.reaches_next (hold₁.limit_eq.trans hlimit) fun u ↦ ?_)
  have hused₁ := Heap.Extends.used h₁ u
  refine (does_loadCode ((hold₁.trans hused₁).limit_eq.trans hlimit)
    (hreplace.mono (hold₁.trans hused₁)) hslots ((hold₁.trans hused₁).cells ha)
    (hused₁.cells henv) hparse).mono ?_
  rintro _ h₂ ⟨n, f, cell, rfl, hh₂, hfn, hfun, hcell⟩
  have hold₂ : h₁.Extends h₂ := hused₁.trans hh₂
  refine Running.reaches_declare (Running.reaches_next
    ((hold₁.trans hold₂).limit_eq.trans hlimit) fun u ↦ ?_)
  refine does_refuseCode ((Heap.Extends.used h₂ u).cells hfn) ?_
  refine Running.reaches_enter (Running.reaches_blockEnd fun u' ↦ ?_)
  have hused₂ := Heap.Extends.used h₂ u'
  refine hP c n f cell e _ ((hold₁.trans hold₂).trans hused₂) (hused₂.cells hfn)
    (hused₂.grew.function?_eq hfun) (hused₂.cells hcell) (hlooks.mono (hold₂.trans hused₂))
    fun k ↦ ?_
  rw [Heap.rawGet, (hold₂.trans hused₂).grew.table_eq hlooks.lt_size List.not_mem_nil]
  exact hempty k

/-- The function that replaces a piece comes to the expression in it. -/
theorem Running.reaches_expression {code : ByteArray} {body : FunctionBody} {b : Nat}
    (hlimit : h.limit = limit) (hreplace : h.CanReplace r.activation.captured g)
    (hdepth : r.frame.depth + 1 < Machine.depthLimit)
    (hslots : r.frame.slots + Machine.librarySlots ≤ Machine.slotLimit)
    (hroom : r.frame.slots + body.info.frameSize ≤ Machine.slotLimit)
    (hb : h.Holds b (.str (Pattern.inBraces code)))
    (hparse : Parser.parse (Token.beforeZero (chunkName code)) r.frame.depth
      ("return ".toUTF8 ++ code) = .ok body)
    (hP : ∀ (t : Turn) (f : Frame) (e : Nat), f.localNames = replacementNames →
      f.function = r.frame.function →
        t.BeginsExpression r.machine (f :: r.below) body e g → P t) :
    r.Reaches limit P [("block".toUTF8, b)]
      [.block replace.block.statements replace.block [] []] .next h := by
  refine Running.reaches_next hlimit fun u ↦ ?_
  have hused := Heap.Extends.used h u
  refine (does_takeCode (hused.limit_eq.trans hlimit) (hreplace.mono hused).sub hslots
    (hused.cells hb)).mono ?_
  rintro _ h₁ ⟨a, rfl, hh₁, hcode⟩
  have hold₁ : h.Extends h₁ := hused.trans hh₁
  have hlimit₁ := hold₁.limit_eq.trans hlimit
  refine Running.reaches_declare (Running.reaches_loaded hlimit₁ (hreplace.mono hold₁) hslots hcode
    hparse fun c n f cell e h₂ hh₂ hfn hfun hcell hlooks hempty ↦ ?_)
  exact Running.reaches_evaluateCode (hh₂.limit_eq.trans hlimit₁) hdepth hroom hfn hfun hcell hlooks
    hempty fun t f hnames hfunction ht ↦ hP t f e hnames hfunction ht

end Replace

end MacroStream.Script
