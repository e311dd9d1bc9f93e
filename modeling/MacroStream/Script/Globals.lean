import MacroStream.Script.Library

/-!
# What scripts find

The heap of an interpreter before any script has run: the main thread, the tables of the libraries,
and the metatables of strings and files. The table of every library can be reached in two ways, as a
global variable and as a loaded module.

A sandbox takes names away from the global table and from the tables of two libraries; loaded
modules stay as they are.
-/

namespace MacroStream.Script

/-- Which libraries there are. -/
structure LibrarySet where
  /-- Whether scripts may look into running functions. -/
  debug : Bool
  /-- Whether libraries that are not scripts are refused from the start. -/
  scriptsOnly : Bool
  deriving DecidableEq, Repr

namespace Globals

/-- Names with library functions as values. -/
def functionsOf {α : Type} (wrap : α → Primitive) (fs : List (String × α)) :
    List (String × Value) :=
  fs.map fun (name, f) ↦ (name, .primitive (wrap f))

/-- Names for the limits and constants of numbers. -/
def numbers : List (String × Value) :=
  [("pi", .float 3.141592653589793), ("huge", .float (1.0 / 0.0)),
    ("maxinteger", .int Int64.maxValue), ("mininteger", .int Int64.minValue)]

/-- The operators that strings understand when they stand for numbers. -/
def stringEvents : List String := ["add", "sub", "mul", "mod", "pow", "div", "idiv", "unm"]

/-- A standard stream. -/
def stream (number : Nat) : UserObject :=
  .file ⟨.empty, .empty, 0, number = 0, number ≠ 0, false, true, some number⟩

/-- The table of a library, which is a global variable and a loaded module. -/
def addLibrary (name : String) (fields : List (String × Value)) (h : Heap) : Nat × Heap :=
  let (a, h) := h.newTableOf fields
  let r := h.registry
  (a, (h.setField r.globals name (.table a)).setField r.loaded name (.table a))

/-- The tables that everything else is found in. -/
def addRoots (h : Heap) : Heap :=
  let (globals, h) := h.newTable {}
  let (loaded, h) := h.newTable {}
  let (preload, h) := h.newTable {}
  let (arrayMeta, h) := h.newTableOf [("__metatable", .bool false)]
  { h with registry := { h.registry with globals, loaded, preload, arrayMeta } }

/-- The global functions. -/
def addBase (h : Heap) : Heap :=
  let r := h.registry
  let fields := functionsOf .base Primitive.ofBase ++
    [("_G", .table r.globals), ("_VERSION", textValue "Lua 5.4")]
  (fields.foldl (fun h (k, v) ↦ h.setField r.globals k v) h).setField r.loaded "_G"
    (.table r.globals)

/-- The library of strings, which all strings have as their methods. -/
def addStrings (h : Heap) : Heap :=
  let (strings, h) := addLibrary "string" (functionsOf .string Primitive.ofString) h
  let events := stringEvents.map fun e ↦ ("__" ++ e, Value.primitive (.string (.arith e)))
  let (m, h) := h.newTableOf (("__index", .table strings) :: events)
  h.setTypeMeta "string" (some m)

/-- The library of files with the standard streams. -/
def addFiles (h : Heap) : Heap :=
  let (methods, h) := h.newTableOf (functionsOf .file Primitive.ofFile)
  let (fileMeta, h) := h.newTableOf
    [("__name", textValue "FILE*"), ("__index", .table methods),
      ("__gc", .primitive (.file .gc)), ("__close", .primitive (.file .gc)),
      ("__tostring", .primitive (.file .tostring))]
  let (input, h) := h.newObject (stream 0)
  let (output, h) := h.newObject (stream 1)
  let (errors, h) := h.newObject (stream 2)
  let r := h.registry
  let r := { r with fileMeta, input := 0, output := 1 }
  let streams := [("stdin", input), ("stdout", output), ("stderr", errors)]
  (addLibrary "io" (functionsOf .io Primitive.ofIo ++ streams) { h with registry := r }).2

/-- The functions that look modules up, in order. -/
def searchers (scriptsOnly : Bool) (h : Heap) : List Value × Heap :=
  let first : List Value :=
    [.primitive (.package .searchPreload), .primitive (.package .searchScript)]
  if scriptsOnly then
    let (skips, h) := h.newFunction .skipsLibraries
    (first ++ [skips], h)
  else
    (first ++ [.primitive (.package .searchLibrary), .primitive (.package .searchLibraryRoot)], h)

/-- A new table with the given items. -/
def newSequence (vs : List Value) (h : Heap) : Nat × Heap :=
  h.newTable ((vs.foldl (fun (tn : Table × Int64) v ↦ (tn.1.setInt tn.2 v, tn.2 + 1)) ({}, 1)).1)

/-- The library of modules. -/
def addModules (scriptsOnly : Bool) (h : Heap) : Heap :=
  let (found, h) := searchers scriptsOnly h
  let (list, h) := newSequence found h
  let r := h.registry
  let (a, h) := addLibrary "package"
    (functionsOf .package Primitive.ofPackage ++
      [("path", textValue Library.defaultPath), ("cpath", textValue Library.defaultLibraryPath),
        ("config", textValue "/\n;\n?\n!\n-\n"), ("loaded", .table r.loaded),
        ("preload", .table r.preload), ("searchers", .table list)]) h
  let h := { h with registry := { h.registry with package := a } }
  if scriptsOnly then
    let (refuses, h) := h.newFunction .refusesLibraries
    h.setField a "loadlib" refuses
  else h

/-- The heap with the given libraries. Variable 0 belongs to nobody. -/
def heap (libraries : LibrarySet) : Heap :=
  let h : Heap := { cells := #[.nil], threads := #[.active], random := Library.Random.seeded 1 0 }
  let h := addBase (addRoots h)
  let h := addModules libraries.scriptsOnly h
  let h := (addLibrary "coroutine" (functionsOf .coroutine Primitive.ofCoroutine) h).2
  let h := (addLibrary "table" (functionsOf .table Primitive.ofTable) h).2
  let h := (addLibrary "os" (functionsOf .os Primitive.ofOs) h).2
  let h := addStrings (addFiles h)
  let h := (addLibrary "utf8" (functionsOf .utf8 Primitive.ofUtf8 ++
    [("charpattern", .str Library.CodePoint.charPattern)]) h).2
  let h := (addLibrary "math" (functionsOf .math Primitive.ofMath ++ numbers) h).2
  if libraries.debug then (addLibrary "debug" (functionsOf .debug Primitive.ofDebug) h).2 else h

/-! ### The sandbox -/

/-- Global variables that a sandbox takes away. -/
def forbiddenGlobals : List String := ["debug", "io", "dofile", "loadfile"]

/-- Functions on the process that a sandbox takes away. -/
def forbiddenOs : List String := ["execute", "exit", "getenv", "remove", "rename", "tmpname"]

/-- Functions on modules that a sandbox takes away. -/
def forbiddenPackage : List String := ["loadlib"]

/-- Takes names away from a table. -/
def forbid (a : Nat) (names : List String) (h : Heap) : Heap :=
  names.foldl (fun h name ↦ h.setField a name .nil) h

/-- Takes names away from the table that a global variable holds. -/
def forbidIn (name : String) (names : List String) (h : Heap) : Heap :=
  match h.getField h.registry.globals name with
  | .table a => forbid a names h
  | _ => h

/-- Takes away the process, the file system and the look into running functions. -/
def sandbox (h : Heap) : Heap :=
  forbidIn "package" forbiddenPackage
    (forbidIn "os" forbiddenOs (forbid h.registry.globals forbiddenGlobals h))

end Globals

end MacroStream.Script
