import MacroStream.Proofs.Script.Installation
import MacroStream.Proofs.Script.TableReads

/-!
# What a sandbox leaves

A sandbox takes names away from three tables. The values behind these names are withheld as long as
they stand nowhere else, and this can be read off the tables of a new interpreter, which are known.

Two of the values do stand elsewhere: the libraries `debug` and `io` are loaded modules, too, and
loaded modules stay as they are. Scripts find the table of loaded modules in the library `package`,
and `require` looks into it first. There is no other way: a chain of reads finds a withheld value
exactly if it ends with one of these two entries.
-/

namespace MacroStream.Script

/-! ### Heaps with the same tables -/

namespace Heap.SameTables

variable {h h' : Heap}

theorem rawGet (ht : h.SameTables h') (a : Nat) (k : Key) : h.rawGet a k = h'.rawGet a k := by
  rw [Heap.rawGet, Heap.rawGet, Heap.table, Heap.table, ht.tables]

theorem readPath (ht : h.SameTables h') (v : Value) (path : List Key) :
    h.readPath v path = h'.readPath v path := by
  induction path generalizing v with
  | nil => rw [Heap.readPath, Heap.readPath]
  | cons k ks ih =>
    cases v with
    | table a => rw [Heap.readPath, Heap.readPath, ht.rawGet, ih]
    | _ => rfl

theorem setField (ht : h.SameTables h') (a : Nat) (name : String) (v : Value) :
    (h.setField a name v).SameTables (h'.setField a name v) := by
  refine ⟨?_, ht.registry, ht.typeMetas⟩
  rw [Heap.setField, Heap.setField, Heap.rawSet, Heap.rawSet, ht.tables]

theorem forbid (ht : h.SameTables h') (a : Nat) (names : List String) :
    (Globals.forbid a names h).SameTables (Globals.forbid a names h') := by
  induction names generalizing h h' with
  | nil => exact ht
  | cons name names ih => exact ih (ht.setField a name .nil)

theorem forbidIn (ht : h.SameTables h') (name : String) (names : List String) :
    (Globals.forbidIn name names h).SameTables (Globals.forbidIn name names h') := by
  have hfield : h.getField h.registry.globals name = h'.getField h'.registry.globals name := by
    rw [Heap.getField, Heap.getField, Heap.table, Heap.table, ht.tables, ht.registry]
  rw [Globals.forbidIn, Globals.forbidIn, hfield]
  split
  · exact ht.forbid _ names
  · exact ht

/-- A sandbox does not look at anything but tables. -/
theorem sandbox (ht : h.SameTables h') : (Globals.sandbox h).SameTables (Globals.sandbox h') := by
  rw [Globals.sandbox, Globals.sandbox, ht.registry]
  exact ((ht.forbid _ _).forbidIn _ _).forbidIn _ _

end Heap.SameTables

/-! ### Withheld values -/

/-- The chains of keys that lead to what a sandbox takes away. -/
def forbiddenPaths : List (List Key) :=
  Globals.forbiddenGlobals.map (fun name ↦ [textKey name]) ++
    Globals.forbiddenOs.map (fun name ↦ [textKey "os", textKey name]) ++
    Globals.forbiddenPackage.map (fun name ↦ [textKey "package", textKey name])

/-- What is found behind a chain of keys, starting with the table of global variables. -/
def Heap.readGlobal (h : Heap) (path : List Key) : Value :=
  h.readPath (.table h.registry.globals) path

/-- Whether a value is one of those that a sandbox around a heap takes away. -/
def Heap.withholds (h : Heap) (v : Value) : Bool :=
  forbiddenPaths.any fun path ↦ (h.readGlobal path).rawEq v

theorem Heap.SameTables.readGlobal {h h' : Heap} (ht : h.SameTables h') (path : List Key) :
    h.readGlobal path = h'.readGlobal path := by
  rw [Heap.readGlobal, Heap.readGlobal, ht.registry, ht.readPath]

theorem Heap.SameTables.withholds {h h' : Heap} (ht : h.SameTables h') (v : Value) :
    h.withholds v = h'.withholds v := by
  rw [Heap.withholds, Heap.withholds]
  simp only [ht.readGlobal]

/-- The libraries whose tables stay in reach. -/
def leftModules : List String := ["debug", "io"]

/-- The entries for these libraries in the table of loaded modules. -/
def isLeftEntry (h : Heap) (a : Nat) (k : Key) : Bool :=
  a = h.registry.loaded && leftModules.any fun name ↦ k = textKey name

/-- The chain of keys that leads to the table of loaded modules. -/
def loadedPath : List Key := [textKey "package", textKey "loaded"]

/-- The libraries with the function for interpolation, in a sandbox. -/
def closedHeap : Heap := Globals.sandbox openHeap

/-- The entry of a name in the table of loaded modules. -/
def loadedModule (name : String) : Value :=
  closedHeap.rawGet closedHeap.registry.loaded (textKey name)

/-- What there is to see in the tables of a sandbox. -/
structure ClosedFacts : Prop where
  keeps : closedHeap.keeps openHeap.withholds (isLeftEntry closedHeap) = true
  nil : openHeap.withholds .nil = false
  globals : openHeap.withholds (.table closedHeap.registry.globals) = false
  loaded : (closedHeap.readGlobal loadedPath).rawEq (.table closedHeap.registry.loaded) = true
  modules : ∀ name ∈ leftModules,
    openHeap.withholds (loadedModule name) = true ∧ (loadedModule name).isTruthy = true
  metatables : ∀ t ∈ closedHeap.tables, t.metatable = none

/-- The same as a computation. -/
def closedHeapChecks : Bool :=
  closedHeap.keeps openHeap.withholds (isLeftEntry closedHeap) &&
    !openHeap.withholds .nil && !openHeap.withholds (.table closedHeap.registry.globals) &&
    (closedHeap.readGlobal loadedPath).rawEq (.table closedHeap.registry.loaded) &&
    leftModules.all (fun name ↦
      openHeap.withholds (loadedModule name) && (loadedModule name).isTruthy) &&
    closedHeap.tables.all fun t ↦ t.metatable = none

theorem closedFacts : ClosedFacts := by
  -- One check for everything: making the tables is most of the work.
  have hchecks : closedHeapChecks = true := by decide +kernel
  simp only [closedHeapChecks, Bool.and_eq_true, Bool.not_eq_true'] at hchecks
  obtain ⟨⟨⟨⟨⟨hkeeps, hnil⟩, hglobals⟩, hloaded⟩, hmodules⟩, hmetatables⟩ := hchecks
  refine ⟨hkeeps, hnil, hglobals, hloaded, fun name hname ↦ ?_, fun t ht ↦ ?_⟩
  · exact Bool.and_eq_true_iff.1 (List.all_eq_true.1 hmodules name hname)
  · exact of_decide_eq_true (Array.all_eq_true'.1 hmetatables t ht)

theorem Value.eq_table_of_rawEq {v : Value} {a : Nat} (h : v.rawEq (.table a) = true) :
    v = .table a := by
  cases v with
  | table b => exact congrArg Value.table (beq_iff_eq.1 h)
  | _ => exact nomatch h

/-- What a chain of keys finds in a sandbox is withheld exactly if the last key is the name of one
of the libraries left, and is looked up among the loaded modules. -/
theorem closedHeap_withholds_iff (path : List Key) :
    openHeap.withholds (closedHeap.readGlobal path) = true ↔
      ∃ before, ∃ name ∈ leftModules, path = before ++ [textKey name] ∧
        closedHeap.readGlobal before = .table closedHeap.registry.loaded := by
  constructor
  · intro hpath
    obtain ⟨before, k, a, rfl, hbefore, hgate⟩ :=
      Heap.exists_gate_of_readPath closedFacts.keeps closedFacts.nil closedFacts.globals hpath
    rw [isLeftEntry, Bool.and_eq_true, List.any_eq_true] at hgate
    obtain ⟨hloaded, name, hname, hk⟩ := hgate
    rw [of_decide_eq_true hloaded] at hbefore
    exact ⟨before, name, hname, by rw [of_decide_eq_true hk], hbefore⟩
  · rintro ⟨before, name, hname, rfl, hbefore⟩
    rw [Heap.readGlobal] at hbefore ⊢
    rw [Heap.readPath_concat, hbefore]
    exact (closedFacts.modules name hname).1

/-! ### Loaded modules -/

theorem beforeZero_of_mem_leftModules {name : String} (hname : name ∈ leftModules) :
    Token.beforeZero name.toUTF8 = name.toUTF8 := by
  have hall : leftModules.all fun name ↦ Token.beforeZero name.toUTF8 = name.toUTF8 := by
    simp only [Token.beforeZero, Text.toList_eq_data_toList]
    decide +kernel
  exact of_decide_eq_true (List.all_eq_true.1 hall name hname)

/-- `require` answers with what is loaded. -/
theorem require_of_loaded {h : Heap} {v : Value} {name : ByteArray}
    (hname : Token.beforeZero name = name)
    (hv : h.rawGet h.registry.loaded (.str name) = v) (htruthy : v.isTruthy = true)
    (k : List Value → Heap → Heap × Signal) : Library.require [.str name] k h = k [v] h := by
  have hnil : v.isNil = false := by
    cases v with
    | nil => exact nomatch htruthy
    | _ => rfl
  have hfield : h.field? (.table h.registry.loaded) name = some v := by
    rw [Heap.field?, hv, hnil]
    rfl
  have hneed : Action.needBytes [.str name] 1 = pure name := rfl
  rw [Library.require, hneed]
  simp only [Action.bind_apply, Action.pure_apply, Action.read_apply, hname, Action.getKey,
    index_of_field? hfield, htruthy, if_true]

/-! ### Interpreters in a sandbox -/

theorem Heap.SameTables.withholds_iff {h h' : Heap} (ht : h.SameTables openHeap)
    (ht' : h'.SameTables closedHeap) (path : List Key) :
    h.withholds (h'.readGlobal path) = true ↔
      ∃ before, ∃ name ∈ leftModules, path = before ++ [textKey name] ∧
        h'.readGlobal before = .table h'.registry.loaded := by
  rw [ht.withholds, ht'.readGlobal, ht'.registry]
  simp only [ht'.readGlobal]
  exact closedHeap_withholds_iff path

theorem Heap.SameTables.metatable_eq_none {h : Heap} (ht : h.SameTables closedHeap) (a : Nat) :
    (h.table a).metatable = none := by
  rw [Heap.table, ht.tables, Array.getD_eq_getD_getElem?]
  cases htable : closedHeap.tables[a]? with
  | none => rfl
  | some t => exact closedFacts.metatables t (Array.mem_of_getElem? htable)

theorem Heap.SameTables.readGlobal_loadedPath {h : Heap} (ht : h.SameTables closedHeap) :
    h.readGlobal loadedPath = .table h.registry.loaded := by
  rw [ht.readGlobal, ht.registry]
  exact Value.eq_table_of_rawEq closedFacts.loaded

theorem Heap.SameTables.require_eq {h : Heap} (ht : h.SameTables closedHeap) {name : String}
    (hname : name ∈ leftModules) (k : List Value → Heap → Heap × Signal) :
    Library.require [textValue name] k h =
      k [h.readGlobal (loadedPath ++ [textKey name])] h := by
  have hread : h.readGlobal (loadedPath ++ [textKey name]) =
      h.rawGet h.registry.loaded (textKey name) := by
    have hloaded := ht.readGlobal_loadedPath
    rw [Heap.readGlobal] at hloaded ⊢
    rw [Heap.readPath_concat, hloaded]
  have hmodule : h.rawGet h.registry.loaded (textKey name) = loadedModule name := by
    rw [ht.rawGet, ht.registry, loadedModule]
  rw [hread, hmodule]
  exact require_of_loaded (beforeZero_of_mem_leftModules hname) hmodule
    (closedFacts.modules name hname).2 k

namespace Interpreter

variable {m : Type → Type} [Monad m] [LawfulMonad m] (respond : Responder m)

/-- **A sandbox withholds everything but two libraries.** Whatever the configuration and the host
are, a chain of reads in a new interpreter with a sandbox finds a value that the sandbox takes away
exactly if it ends with the entry of `debug` or `io` among the loaded modules. These are found in
the library `package`, and `require` answers with them. No table has a metatable, so there are no
other reads. -/
theorem ofConfig_withholds_iff {c : ScriptingConfig} (hc : c.sandbox = true) :
    ∃ opened sandboxed : Interpreter,
      ofConfig respond { c with sandbox := false } = pure (.ok opened) ∧
      ofConfig respond c = pure (.ok sandboxed) ∧
      (∀ path, opened.heap.withholds (sandboxed.heap.readGlobal path) = true ↔
        ∃ before, ∃ name ∈ leftModules, path = before ++ [textKey name] ∧
          sandboxed.heap.readGlobal before = .table sandboxed.heap.registry.loaded) ∧
      sandboxed.heap.readGlobal loadedPath = .table sandboxed.heap.registry.loaded ∧
      (∀ name ∈ leftModules, ∀ k, Library.require [textValue name] k sandboxed.heap =
        k [sandboxed.heap.readGlobal (loadedPath ++ [textKey name])] sandboxed.heap) ∧
      ∀ a, (sandboxed.heap.table a).metatable = none := by
  obtain ⟨i, hopen, hconfig⟩ := exists_ofConfig respond c
  have hclosed : (Globals.sandbox i.heap).SameTables closedHeap := hopen.sandbox
  have hopened := hconfig false
  have hsandboxed := hconfig c.sandbox
  rw [if_neg Bool.false_ne_true] at hopened
  rw [if_pos hc] at hsandboxed
  -- From here on only the tables of the sandbox matter, and they are those of `closedHeap`.
  generalize Globals.sandbox i.heap = h at hclosed hsandboxed
  exact ⟨i, { i with heap := h }, hopened, hsandboxed, hopen.withholds_iff hclosed,
    hclosed.readGlobal_loadedPath, fun _ hname k ↦ hclosed.require_eq hname k,
    hclosed.metatable_eq_none⟩

/-- With the default configuration, `package.loaded.debug` is the library that the sandbox takes
away, whether or not the host answers. -/
theorem ofConfig_withholds_iff_default :
    ({} : ScriptingConfig).sandbox = true ∧ ∃ opened sandboxed : Interpreter,
      ofConfig (fun _ ↦ none) { sandbox := false } = some (.ok opened) ∧
      ofConfig (fun _ ↦ none) {} = some (.ok sandboxed) ∧
      opened.heap.withholds
        (sandboxed.heap.readGlobal [textKey "package", textKey "loaded", textKey "debug"]) =
          true := by
  obtain ⟨opened, sandboxed, hopened, hsandboxed, hiff, hloaded, -⟩ :=
    ofConfig_withholds_iff (fun _ ↦ none) (c := {}) rfl
  have hread := (hiff _).2 ⟨loadedPath, "debug", List.mem_cons_self, rfl, hloaded⟩
  exact ⟨rfl, opened, sandboxed, hopened, hsandboxed, hread⟩

end Interpreter

end MacroStream.Script
