import MacroStream.Proofs.Script.InterpolationTrees
import MacroStream.Proofs.Script.PlainChunks

/-!
# Interpreters before any script has run

Making an interpreter for macros runs one chunk, the one that defines the function for
interpolation. The chunk sets up, so it needs no answer from the host and cannot fail for want of
memory: a limit is a whole number of megabytes, and the libraries and the chunk take far less. What
it leaves in the tables is one more global variable.

All tables of a new interpreter are therefore known, whatever its configuration and its host are.
They are those of `openHeap`, or of a sandbox around it.
-/

namespace MacroStream.Script

/-! ### The chunk for interpolation -/

/-- The libraries for macros. -/
def libraryHeap : Heap := Globals.heap ⟨true, false⟩

/-- The table of global variables. -/
def libraryGlobals : Nat := libraryHeap.registry.globals

/-- The smallest limit that there is, in bytes. -/
def megabyte : Nat := 1024 * 1024

/-- The libraries have what the chunk for interpolation asks for, and leave room for it. -/
theorem isSetup_interpolation :
    isSetup libraryHeap (.table libraryGlobals) "f".toUTF8 Interpolation.chunk.block.statements =
        true ∧
      libraryHeap.used + 8120 ≤ megabyte := by
  decide +kernel

theorem metatable_libraryGlobals : (libraryHeap.table libraryGlobals).metatable = none := by
  decide +kernel

/-! ### Limits -/

/-- The bytes of a limit are counted in a word, and start again from 0 at `2 ^ 44` megabytes. -/
theorem Interpreter.toNat_memoryLimit (megabytes : UInt64) :
    (memoryLimit megabytes).toNat = megabytes.toNat % 2 ^ 44 * 2 ^ 20 := by
  have hlimit : (memoryLimit megabytes).toNat =
      megabytes.toNat * 1024 % 2 ^ 64 * 1024 % 2 ^ 64 := by
    rw [memoryLimit, UInt64.toNat_mul, UInt64.toNat_mul]
    rfl
  rw [hlimit]
  omega

/-- A limit is none, or at least a megabyte, also where its bytes do not fit a word. -/
theorem memoryLimit_eq_zero_or_le (megabytes : UInt64) :
    (Interpreter.memoryLimit megabytes).toNat = 0 ∨
      megabyte ≤ (Interpreter.memoryLimit megabytes).toNat := by
  rw [Interpreter.toNat_memoryLimit, megabyte]
  omega

/-- An interpreter that has not run yet, with a limit in megabytes. -/
def Interpreter.limited (h : Heap) (megabytes : UInt64) : Interpreter :=
  { heap := { h with limit := (memoryLimit megabytes).toNat } }

theorem Interpreter.limited_roomy {h : Heap} {bytes : Nat} (hbytes : h.used + bytes ≤ megabyte)
    (megabytes : UInt64) : (limited h megabytes).heap.Roomy bytes := by
  rcases memoryLimit_eq_zero_or_le megabytes with hzero | hle
  · exact .inl hzero
  · exact .inr (Nat.le_trans hbytes hle)

/-! ### New interpreters -/

/-- Two heaps have the same tables, and the program finds its own ones at the same places. -/
structure Heap.SameTables (h h' : Heap) : Prop where
  tables : h.tables = h'.tables
  registry : h.registry = h'.registry
  typeMetas : h.typeMetas = h'.typeMetas

/-- A chunk that sets up leaves the tables alone, but for the function that it defines. -/
theorem Heap.SameTables.afterChunk {h h' : Heap} (ht : h.SameTables h')
    (hf : h.functions.size = h'.functions.size) (size : Nat) (global : Name)
    (body body' : FunctionBody) :
    (h.afterChunk size global body body').SameTables
      (h'.rawSet h'.registry.globals (.str global) (.function (h'.functions.size + 1))) := by
  have hsize : (h.withChunk size (.table h.registry.globals) body).functions.size =
      h'.functions.size + 1 := by
    rw [← hf]
    exact Array.size_push _
  refine ⟨?_, ht.registry, ht.typeMetas⟩
  rw [Heap.afterChunk, Heap.afterSetup, Heap.withFunction, Heap.rawSet, Heap.rawSet, ← ht.tables,
    ← ht.registry, ← hsize]
  rfl

/-- The libraries with the function for interpolation. -/
def openHeap : Heap :=
  libraryHeap.rawSet libraryGlobals (.str "f".toUTF8) (.function (libraryHeap.functions.size + 1))

namespace Interpreter

variable {m : Type → Type} [Monad m] [LawfulMonad m] (respond : Responder m)

/-- A chunk that sets up, as the first one in an interpreter with a limit. -/
theorem execute_limited_of_isSetup {h : Heap} {name : String} {source : ByteArray}
    {body : FunctionBody} {global : Name} (hname : zeroByte? name.toUTF8 = none)
    (hsource : source.data.toList.head? ≠ some 27)
    (hparse : Parser.parse name.toUTF8 0 source = .ok body)
    (hparams : body.info.params = []) (hsize : body.info.frameSize ≤ Machine.slotLimit)
    (hlength : body.block.statements.length + 2 ≤ stepLimit)
    (hsetup : isSetup h (.table h.registry.globals) global body.block.statements = true)
    (hglobals : (h.table h.registry.globals).metatable = none)
    (hroom : h.used + (4 * source.size + 120) ≤ megabyte) (megabytes : UInt64) :
    ∃ body', definedBody? body.block.statements = some body' ∧
      execute respond (limited h megabytes) name source = pure (.ok [],
        ⟨(limited h megabytes).idleMachine,
          (limited h megabytes).workHeap.afterChunk source.size global body body'⟩) := by
  have htables : (limited h megabytes).heap.tables = h.tables := rfl
  have hsetup' := (isSetup_congr htables (.table h.registry.globals) global _).trans hsetup
  exact execute_of_isSetup respond hname hsource hparse hparams hsize hlength hsetup' hglobals
    (limited_roomy hroom megabytes)

theorem afterChunk_limited (h : Heap) (megabytes : UInt64) (size : Nat) (global : Name)
    (body body' : FunctionBody) :
    ((limited h megabytes).workHeap.afterChunk size global body body').SameTables
        (h.rawSet h.registry.globals (.str global) (.function (h.functions.size + 1))) ∧
      ((limited h megabytes).workHeap.afterChunk size global body body').limit =
        (memoryLimit megabytes).toNat := by
  have hsame : (limited h megabytes).workHeap.SameTables h := ⟨rfl, rfl, rfl⟩
  exact ⟨hsame.afterChunk rfl .., rfl⟩

theorem execute_interpolation (megabytes : UInt64) :
    execute respond (limited libraryHeap megabytes) interpolationChunk
      interpolationSource.toUTF8 = pure (.ok [], ⟨(limited libraryHeap megabytes).idleMachine,
        (limited libraryHeap megabytes).workHeap.afterChunk interpolationSource.toUTF8.size
          "f".toUTF8 Interpolation.chunk Interpolation.interpolate⟩) := by
  obtain ⟨hhead, hsize, hparse⟩ := Interpolation.parse_interpolation
  have hbytes : 4 * interpolationSource.toUTF8.size + 120 ≤ 8120 :=
    Nat.add_le_add_right (Nat.mul_le_mul_left 4 hsize) 120
  obtain ⟨hsetup, hused⟩ := isSetup_interpolation
  have hroom : libraryHeap.used + (4 * interpolationSource.toUTF8.size + 120) ≤ megabyte :=
    Nat.le_trans (Nat.add_le_add_left hbytes _) hused
  obtain ⟨body', hbody', hexecute⟩ := execute_limited_of_isSetup respond (by decide +kernel) hhead
    hparse rfl (by decide) (by decide) hsetup metatable_libraryGlobals hroom megabytes
  obtain rfl : Interpolation.interpolate = body' := Option.some.inj hbody'
  exact hexecute

/-- The interpreter behind the chunk for interpolation, with a limit in megabytes. -/
def interpolating (megabytes : UInt64) : Interpreter where
  machine := (limited libraryHeap megabytes).idleMachine
  heap := (limited libraryHeap megabytes).workHeap.afterChunk interpolationSource.toUTF8.size
    "f".toUTF8 Interpolation.chunk Interpolation.interpolate

theorem ofConfig_eq (c : ScriptingConfig) :
    ofConfig respond c = pure (.ok (if c.sandbox then
      { interpolating c.memoryLimitMb with
        heap := Globals.sandbox (interpolating c.memoryLimitMb).heap }
      else interpolating c.memoryLimitMb)) := by
  change (execute respond (limited libraryHeap c.memoryLimitMb) interpolationChunk
    interpolationSource.toUTF8 >>= _) = _
  rw [execute_interpolation, pure_bind, interpolating]

/-- **New interpreters.** Whatever the host answers, an interpreter for macros is made. Its tables
are known, and the sandbox works on the interpreter that is made without one. -/
theorem exists_ofConfig_limited (c : ScriptingConfig) :
    ∃ i : Interpreter, i.heap.SameTables openHeap ∧
      i.heap.limit = (memoryLimit c.memoryLimitMb).toNat ∧ ∀ sandbox,
      ofConfig respond { c with sandbox } =
        pure (.ok (if sandbox then { i with heap := Globals.sandbox i.heap } else i)) := by
  obtain ⟨hsame, hlimit⟩ := afterChunk_limited libraryHeap c.memoryLimitMb
    interpolationSource.toUTF8.size "f".toUTF8 Interpolation.chunk Interpolation.interpolate
  exact ⟨interpolating c.memoryLimitMb, hsame, hlimit, fun sandbox ↦ ofConfig_eq respond _⟩

/-- The same without the limit. -/
theorem exists_ofConfig (c : ScriptingConfig) :
    ∃ i : Interpreter, i.heap.SameTables openHeap ∧ ∀ sandbox,
      ofConfig respond { c with sandbox } =
        pure (.ok (if sandbox then { i with heap := Globals.sandbox i.heap } else i)) := by
  obtain ⟨i, htables, -, hconfig⟩ := exists_ofConfig_limited respond c
  exact ⟨i, htables, hconfig⟩

end Interpreter

end MacroStream.Script
