import MacroStream.Proofs.Script.Fragments
import MacroStream.Proofs.Script.Sandbox

/-!
# The function for interpolation in new interpreters

A new interpreter for macros has run the chunk that defines `f`. The variables of that chunk hold
functions of the libraries and the table of the global variables, and `f` has captured some of them.
A sandbox takes entries out of tables afterwards, but the variables stay as they are: so `f` still
looks at the stack, which the script itself cannot do any more.
-/

namespace MacroStream.Script

open Interpolation

/-- A function is the one for interpolation, with what the chunk gives it. For global variables it
looks into the table `g`. -/
def Heap.Interpolates (h : Heap) (a g : Nat) : Prop :=
  ∃ captured, h.function? a = some (.script interpolate captured) ∧ h.CanReplace captured g ∧
    h.HasMethod "gsub".toUTF8 (.string .gsub)

variable {h h' : Heap} {a g : Nat}

/-- The captured variables of the function for interpolation, or of the one that replaces a piece,
hold what is needed to answer a text or to give up. -/
structure Heap.CanAnswer (h : Heap) (captured : Array Nat) : Prop where
  error : h.Holds (captured.getD 7 0) (.primitive (.base .error))
  tostring : h.Holds (captured.getD 8 0) (.primitive (.base .tostring))
  /-- Strings are their own texts. -/
  plain : h.metafield (.str .empty) MetaName.tostring = .nil

theorem Heap.CanAnswer.mono {captured : Array Nat} {name : Name} {p : Primitive}
    (hc : h.CanAnswer captured) (hp : h.HasMethod name p) (hh : h.Extends h') :
    h'.CanAnswer captured :=
  ⟨hh.cells hc.error, hh.cells hc.tostring, (hh.stringField_eq hp.stringField_ne _).trans hc.plain⟩

/-- A function is the one for interpolation, with everything that the chunk gives it. -/
structure Heap.InterpolatesWith (h : Heap) (a g : Nat) (captured : Array Nat) : Prop where
  script : h.function? a = some (.script interpolate captured)
  replaces : h.CanReplace captured g
  gsub : h.HasMethod "gsub".toUTF8 (.string .gsub)
  answers : h.CanAnswer captured

theorem Heap.InterpolatesWith.interpolates {captured : Array Nat}
    (hf : h.InterpolatesWith a g captured) : h.Interpolates a g :=
  ⟨captured, hf.script, hf.replaces, hf.gsub⟩

/-! ### What the chunk declares -/

/-- Whether a value is a certain integer, table or library function. -/
def Value.same : Value → Value → Bool
  | .int n, .int n' => n = n'
  | .table a, .table a' => a = a'
  | .function a, .function a' => a = a'
  | .primitive p, .primitive p' => p = p'
  | _, _ => false

theorem Value.eq_of_same {v w : Value} (hvw : v.same w = true) : v = w := by
  fun_cases Value.same v w with
  | case1 | case2 | case3 | case4 => rw [of_decide_eq_true hvw]
  | case5 => simp_all [Value.same]

/-- The values of the variables of the chunk. -/
def chunkValues (g : Nat) : List Value :=
  [.primitive (.debug .getinfo), .primitive (.debug .getlocal), .primitive (.base .load),
    .primitive (.base .rawget), .primitive (.base .setmetatable), .primitive (.base .tostring),
    .primitive (.base .error), .table g, .int (Int64.ofNat 6)]

/-- Whether a value has the libraries' functions for strings as its methods. -/
def hasMethods (h : Heap) : Bool :=
  match h.metafield (.str .empty) MetaName.index with
  | .table a =>
    (h.rawGet a (.str "sub".toUTF8)).same (.primitive (.string .sub)) &&
      (h.rawGet a (.str "gsub".toUTF8)).same (.primitive (.string .gsub))
  | _ => false

theorem hasMethod_of_hasMethods (hh : hasMethods h = true) :
    h.HasMethod "sub".toUTF8 (.string .sub) ∧ h.HasMethod "gsub".toUTF8 (.string .gsub) := by
  rw [hasMethods] at hh
  split at hh
  case h_1 a ha =>
    rw [Bool.and_eq_true] at hh
    exact ⟨⟨a, ha, Value.eq_of_same hh.1⟩, ⟨a, ha, Value.eq_of_same hh.2⟩⟩
  case h_2 => cases hh

/-- What is to be seen in the tables of new interpreters. -/
structure InstallationFacts : Prop where
  values : declaredValues libraryHeap (.table libraryGlobals) chunk.block.statements =
    chunkValues libraryGlobals
  methods : ∀ heap ∈ [openHeap, closedHeap], hasMethods heap = true
  plain : ∀ heap ∈ [openHeap, closedHeap], heap.metafield (.str .empty) MetaName.tostring = .nil
  function : ∀ heap ∈ [openHeap, closedHeap],
    heap.rawGet libraryGlobals (textKey "f") = .function (libraryHeap.functions.size + 1)
  globals_lt : ∀ heap ∈ [openHeap, closedHeap], libraryGlobals < heap.tables.size
  globals : ∀ heap ∈ [openHeap, closedHeap], heap.registry.globals = libraryGlobals

/-- The same as a computation. -/
def installationChecks : Bool :=
  List.isEqv (declaredValues libraryHeap (.table libraryGlobals) chunk.block.statements)
      (chunkValues libraryGlobals) Value.same &&
    [openHeap, closedHeap].all fun heap ↦ hasMethods heap &&
      (heap.metafield (.str .empty) MetaName.tostring).isNil &&
      (heap.rawGet libraryGlobals (textKey "f")).same
        (.function (libraryHeap.functions.size + 1)) &&
      libraryGlobals < heap.tables.size && heap.registry.globals = libraryGlobals

theorem eq_of_isEqv_same {vs ws : List Value} (hvs : List.isEqv vs ws Value.same = true) :
    vs = ws := by
  induction vs generalizing ws with
  | nil => cases ws <;> simp_all [List.isEqv]
  | cons v vs ih =>
    cases ws with
    | nil => simp [List.isEqv] at hvs
    | cons w ws =>
      rw [List.isEqv, Bool.and_eq_true] at hvs
      rw [Value.eq_of_same hvs.1, ih hvs.2]

theorem installationFacts : InstallationFacts := by
  -- One check for everything: making the tables is most of the work.
  have hchecks : installationChecks = true := by decide +kernel
  rw [installationChecks, Bool.and_eq_true, List.all_eq_true] at hchecks
  obtain ⟨hvalues, hheaps⟩ := hchecks
  simp only [Bool.and_eq_true, decide_eq_true_eq] at hheaps
  exact ⟨eq_of_isEqv_same hvalues, fun heap hheap ↦ (hheaps heap hheap).1.1.1.1,
    fun heap hheap ↦ Value.eq_nil_of_isNil (hheaps heap hheap).1.1.1.2,
    fun heap hheap ↦ Value.eq_of_same (hheaps heap hheap).1.1.2,
    fun heap hheap ↦ (hheaps heap hheap).1.2, fun heap hheap ↦ (hheaps heap hheap).2⟩

/-! ### What the chunk leaves -/

/-- The function that a chunk defines comes after that of the chunk itself. -/
theorem function?_afterChunk (h : Heap) (size : Nat) (global : Name) (body body' : FunctionBody) :
    (h.afterChunk size global body body').function? (h.functions.size + 1) =
      some (.script body' (body'.info.captures.map fun p ↦ Context.captureAddress
        ⟨((declaredNames body.block.statements).zipIdx (h.cells.size + 1)).reverse ++ [],
          #[h.cells.size], [], .empty⟩ p.2).toArray) := by
  have hcells : (h.withChunk size (.table h.registry.globals) body).cells.size =
      h.cells.size + 1 := Array.size_push _
  have hfunctions : (h.functions.push (.script body #[h.cells.size])).size =
      h.functions.size + 1 := Array.size_push _
  rw [Heap.afterChunk, Heap.afterSetup, hcells, ← hfunctions]
  exact Array.getElem?_push_size

/-- The variables of a chunk come after the one that holds its global variables. -/
theorem holds_afterChunk {i : Nat} {v : Value} (size : Nat) (global : Name)
    (body body' : FunctionBody)
    (hv : (declaredValues h (.table h.registry.globals) body.block.statements)[i]? = some v) :
    (h.afterChunk size global body body').Holds (h.cells.size + 1 + i) v := by
  let loaded : Heap := h.withChunk size (.table h.registry.globals) body
  have hcells : loaded.cells.size = h.cells.size + 1 := Array.size_push _
  have htables : loaded.tables = h.tables := rfl
  rw [← declaredValues_congr htables] at hv
  have hholds := Heap.holds_withCells loaded _ hv
  rw [hcells] at hholds
  exact hholds

/-- The chunk for interpolation leaves the function for it. -/
theorem exists_interpolatesWith_afterChunk (size : Nat)
    (hvalues : declaredValues h (.table h.registry.globals) chunk.block.statements =
      chunkValues h.registry.globals)
    (hcells : h'.cells = (h.afterChunk size "f".toUTF8 chunk interpolate).cells)
    (hfunctions : h'.functions = (h.afterChunk size "f".toUTF8 chunk interpolate).functions)
    (hglobals : h.registry.globals < h'.tables.size) (hmethods : hasMethods h' = true)
    (hplain : h'.metafield (.str .empty) MetaName.tostring = .nil) :
    ∃ captured, h'.InterpolatesWith (h.functions.size + 1) h.registry.globals captured := by
  obtain ⟨hsub, hgsub⟩ := hasMethod_of_hasMethods hmethods
  have hfun := function?_afterChunk h size "f".toUTF8 chunk interpolate
  have hholds {i : Nat} {v : Value} (hv : (chunkValues h.registry.globals)[i]? = some v) :
      h'.Holds (h.cells.size + 1 + i) v := by
    have hchunk := holds_afterChunk size "f".toUTF8 chunk interpolate (hvalues ▸ hv)
    rw [Heap.Holds, Heap.cell] at hchunk ⊢
    rwa [hcells]
  rw [Heap.function?, ← hfunctions] at hfun
  exact ⟨_, hfun, ⟨hholds (i := 4) rfl, hholds (i := 8) rfl, hholds (i := 0) rfl,
    hholds (i := 1) rfl, hholds (i := 3) rfl, hholds (i := 7) rfl, hholds (i := 2) rfl, hglobals,
    hsub⟩, hgsub, ⟨hholds (i := 6) rfl, hholds (i := 5) rfl, hplain⟩⟩

/-! ### New interpreters -/

theorem forbid_cells (a : Nat) (names : List String) (h : Heap) :
    (Globals.forbid a names h).cells = h.cells ∧
      (Globals.forbid a names h).functions = h.functions := by
  induction names generalizing h with
  | nil => exact ⟨rfl, rfl⟩
  | cons name names ih => exact ih (h.setField a name .nil)

theorem forbidIn_cells (name : String) (names : List String) (h : Heap) :
    (Globals.forbidIn name names h).cells = h.cells ∧
      (Globals.forbidIn name names h).functions = h.functions := by
  rw [Globals.forbidIn]
  split
  · exact forbid_cells _ names h
  · exact ⟨rfl, rfl⟩

/-- A sandbox leaves variables and functions as they are. -/
theorem sandbox_cells (h : Heap) :
    (Globals.sandbox h).cells = h.cells ∧ (Globals.sandbox h).functions = h.functions := by
  rw [Globals.sandbox]
  have hglobals := forbid_cells h.registry.globals Globals.forbiddenGlobals h
  have hos := forbidIn_cells "os" Globals.forbiddenOs
    (Globals.forbid h.registry.globals Globals.forbiddenGlobals h)
  have hpackage := forbidIn_cells "package" Globals.forbiddenPackage
    (Globals.forbidIn "os" Globals.forbiddenOs
      (Globals.forbid h.registry.globals Globals.forbiddenGlobals h))
  exact ⟨hpackage.1.trans (hos.1.trans hglobals.1), hpackage.2.trans (hos.2.trans hglobals.2)⟩

theorem Heap.SameTables.metafield_eq (ht : h.SameTables h') (name : ByteArray) :
    h.metafield (.str .empty) name = h'.metafield (.str .empty) name := by
  simp only [Heap.metafield, Heap.metatable?, ht.typeMetas, ht.rawGet]

theorem Heap.SameTables.hasMethods (ht : h.SameTables h') (hh : hasMethods h' = true) :
    hasMethods h = true := by
  rw [Script.hasMethods, ht.metafield_eq]
  simp only [ht.rawGet]
  exact hh

namespace Interpreter

variable {m : Type → Type} [Monad m] [LawfulMonad m] (respond : Responder m)

theorem exists_interpolatesWith_of_sameTables {heap : Heap} (hheap : heap ∈ [openHeap, closedHeap])
    (megabytes : UInt64) (ht : h.SameTables heap)
    (hcells : h.cells = (interpolating megabytes).heap.cells)
    (hfunctions : h.functions = (interpolating megabytes).heap.functions) :
    ∃ a captured, h.rawGet h.registry.globals (textKey "f") = .function a ∧
      h.InterpolatesWith a h.registry.globals captured := by
  obtain ⟨hvalues, hmethods, hplain, hfunction, hlt, hglobals⟩ := installationFacts
  have hlibraries (h : Heap) : (limited h megabytes).workHeap.tables = h.tables ∧
      (limited h megabytes).workHeap.registry = h.registry ∧
      (limited h megabytes).workHeap.functions = h.functions := ⟨rfl, rfl, rfl⟩
  obtain ⟨htables, hregistry, hsize⟩ := hlibraries libraryHeap
  have hg : h.registry.globals = (limited libraryHeap megabytes).workHeap.registry.globals := by
    rw [ht.registry, hglobals heap hheap, hregistry, libraryGlobals]
  have hfield : h.rawGet h.registry.globals (textKey "f") =
      .function (libraryHeap.functions.size + 1) := by
    rw [ht.rawGet, ht.registry, hglobals heap hheap, hfunction heap hheap]
  have hvalues' : declaredValues (limited libraryHeap megabytes).workHeap
      (.table (limited libraryHeap megabytes).workHeap.registry.globals) chunk.block.statements =
        chunkValues (limited libraryHeap megabytes).workHeap.registry.globals := by
    rw [declaredValues_congr htables, hregistry]
    exact hvalues
  have hlt' : (limited libraryHeap megabytes).workHeap.registry.globals < h.tables.size := by
    rw [hregistry, ht.tables]
    exact hlt heap hheap
  obtain ⟨captured, hf⟩ := exists_interpolatesWith_afterChunk _ hvalues' hcells hfunctions hlt'
    (ht.hasMethods (hmethods heap hheap)) ((ht.metafield_eq _).trans (hplain heap hheap))
  rw [hsize] at hf
  exact ⟨_, captured, hfield, hg ▸ hf⟩

/-- **Interpolation in new interpreters.** Whatever the configuration and the host are, a new
interpreter for macros has the function for interpolation as the global variable `f`. -/
theorem exists_ofConfig_interpolatesWith (c : ScriptingConfig) :
    ∃ (i : Interpreter) (a : Nat) (captured : Array Nat), ofConfig respond c = pure (.ok i) ∧
      i.heap.rawGet i.globals (textKey "f") = .function a ∧
        i.heap.InterpolatesWith a i.globals captured := by
  have hsame : (interpolating c.memoryLimitMb).heap.SameTables openHeap :=
    (afterChunk_limited libraryHeap c.memoryLimitMb _ _ _ _).1
  have hopen : openHeap ∈ [openHeap, closedHeap] := List.mem_cons_self
  have hclosed : closedHeap ∈ [openHeap, closedHeap] := List.mem_cons_of_mem _ List.mem_cons_self
  have hopened := exists_interpolatesWith_of_sameTables hopen c.memoryLimitMb hsame rfl rfl
  have hsandboxed := exists_interpolatesWith_of_sameTables hclosed c.memoryLimitMb hsame.sandbox
    (sandbox_cells _).1 (sandbox_cells _).2
  have hconfig := ofConfig_eq respond c
  generalize interpolating c.memoryLimitMb = i at hopened hsandboxed hconfig
  cases hsandbox : c.sandbox with
  | false =>
    obtain ⟨a, captured, hf⟩ := hopened
    rw [hsandbox, if_neg Bool.false_ne_true] at hconfig
    exact ⟨i, a, captured, hconfig, hf⟩
  | true =>
    obtain ⟨a, captured, hf⟩ := hsandboxed
    rw [hsandbox, if_pos rfl] at hconfig
    generalize Globals.sandbox i.heap = h' at hf hconfig
    exact ⟨_, a, captured, hconfig, hf⟩

theorem exists_ofConfig_interpolates (c : ScriptingConfig) :
    ∃ (i : Interpreter) (a : Nat), ofConfig respond c = pure (.ok i) ∧
      i.heap.rawGet i.globals (textKey "f") = .function a ∧ i.heap.Interpolates a i.globals := by
  obtain ⟨i, a, captured, hconfig, hfield, hf⟩ := exists_ofConfig_interpolatesWith respond c
  exact ⟨i, a, hconfig, hfield, hf.interpolates⟩

end Interpreter

end MacroStream.Script
