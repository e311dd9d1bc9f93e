import MacroStream.Script.Syntax
import MacroStream.Script.Table

/-!
# The heap of an interpreter

Everything that values refer to by address: variables, tables, functions with a state, host objects
and threads. Nothing is ever taken out of the heap, so an address stays valid; `used` counts the
bytes that were asked for, for interpreters that have a memory limit.

So there is no garbage collection. When one is due, the bytes in use are counted anew, and that is
all: the metamethod `__gc` of a script is never called, neither then nor when the interpreter is
closed, and the entries of weak tables stay. What a script does, and writes, in its finalizers is
therefore not seen.

The stacks of threads are not kept here: a stack holds pending computations on the heap, and the
machine owns them. The heap only knows what a thread is doing.
-/

namespace MacroStream.Script

/-- A function that has a state. -/
inductive FunctionObject where
  /-- A function of a script, with the addresses of its captured variables. -/
  | script (body : FunctionBody) (captured : Array Nat)
  /-- An operation that the host lends, by the position of its capability. -/
  | capability (index : Nat) (operation : String)
  /-- Looks up modules for `require`. -/
  | moduleSearcher
  /-- Resumes a coroutine. -/
  | resumer (thread : Nat)
  /-- Goes through the matches of a pattern; the position is kept in a variable. -/
  | matches (subject pattern : ByteArray) (position : Nat)
  /-- Goes through the lines of a file. -/
  | lines (file : Nat) (formats : List Value) (closes : Bool)
  /-- Refuses libraries that are not scripts. -/
  | refusesLibraries
  /-- Says that libraries that are not scripts are not searched. -/
  | skipsLibraries

/-- An open file of a script. -/
structure OpenFile where
  path : ByteArray
  /-- What is read from; writes change it, too. -/
  content : ByteArray
  position : Nat
  reads : Bool
  writes : Bool
  appends : Bool
  isOpen : Bool
  /-- One of the standard streams, which cannot be closed. -/
  stream : Option Nat
  deriving Inhabited

/-- An object of the host. -/
inductive UserObject where
  /-- An error that the host raised, with its text. -/
  | hostError (message : String)
  | file (f : OpenFile)
  deriving Inhabited

/-- What a thread is doing. -/
inductive ThreadStatus where
  /-- It waits for its first resumption, which calls a function. -/
  | fresh (f : Value)
  | suspended
  /-- It runs, or waits for a thread that it resumed. -/
  | active
  | finished
  /-- It threw a value, and its variables have not been closed. -/
  | failed (v : Value)
  deriving Inhabited

/-- Values of the program's own, besides those that scripts reach through the global table. -/
structure Registry where
  /-- The table of global variables. -/
  globals : Nat := 0
  /-- The loaded modules. -/
  loaded : Nat := 0
  /-- The loaders that scripts registered. -/
  preload : Nat := 0
  /-- The table of the library `package`. -/
  package : Nat := 0
  /-- The metatable of files. -/
  fileMeta : Nat := 0
  /-- The metatable of arrays that came from the host. -/
  arrayMeta : Nat := 0
  /-- The standard files for reading and writing. -/
  input : Nat := 0
  output : Nat := 0

/-- What a script asked of the memory management. Only the answers to later questions depend on it. -/
structure Collector where
  /-- It has not been stopped. -/
  runs : Bool := true
  generational : Bool := false
  pause : Nat := 200
  stepMultiplier : Nat := 100

/-- The heap. -/
structure Heap where
  cells : Array Value := #[]
  tables : Array Table := #[]
  functions : Array FunctionObject := #[]
  objects : Array UserObject := #[]
  threads : Array ThreadStatus := #[]
  /-- The metatables of values that are not tables, by the name of their type. -/
  typeMetas : List (String × Nat) := []
  registry : Registry := {}
  /-- The thread that runs. -/
  running : Nat := 0
  /-- The state of the random number generator. -/
  random : UInt64 × UInt64 × UInt64 × UInt64 := (0, 0, 0, 0)
  collector : Collector := {}
  /-- Bytes asked for so far. -/
  used : Nat := 0
  /-- How many bytes there are; 0 is no limit. -/
  limit : Nat := 0

instance : Inhabited Heap := ⟨{}⟩

namespace Heap

/-! ### Variables -/

/-- A new variable. -/
def newCell (v : Value) (h : Heap) : Nat × Heap :=
  (h.cells.size, { h with cells := h.cells.push v })

/-- The value of a variable. -/
def cell (h : Heap) (a : Nat) : Value := h.cells.getD a .nil

/-- Gives a variable a value. -/
def setCell (a : Nat) (v : Value) (h : Heap) : Heap :=
  { h with cells := h.cells.setIfInBounds a v }

/-! ### Tables -/

/-- A new table. -/
def newTable (t : Table) (h : Heap) : Nat × Heap :=
  (h.tables.size, { h with tables := h.tables.push t, used := h.used + 56 })

/-- The table at an address. -/
def table (h : Heap) (a : Nat) : Table := h.tables.getD a {}

/-- Changes the table at an address. -/
def modifyTable (a : Nat) (f : Table → Table) (h : Heap) : Heap :=
  { h with tables := h.tables.modify a f }

/-- The value of a key in the table at an address. -/
def rawGet (h : Heap) (a : Nat) (k : Key) : Value := (h.table a).get k

/-- Gives a key a value in the table at an address. -/
def rawSet (a : Nat) (k : Key) (v : Value) (h : Heap) : Heap :=
  { h with tables := h.tables.modify a (·.set k v), used := h.used + 40 }

/-- The value of a key given by a text. -/
def getField (h : Heap) (a : Nat) (name : String) : Value := (h.table a).getText name

/-- Gives a key given by a text a value. -/
def setField (a : Nat) (name : String) (v : Value) (h : Heap) : Heap :=
  h.rawSet a (.str name.toUTF8) v

/-- A new table with the given fields. -/
def newTableOf (fields : List (String × Value)) (h : Heap) : Nat × Heap :=
  h.newTable (fields.foldl (fun t (k, v) ↦ t.setText k v) {})

/-! ### Other objects -/

/-- A new function. -/
def newFunction (f : FunctionObject) (h : Heap) : Value × Heap :=
  (.function h.functions.size,
    { h with functions := h.functions.push f, used := h.used + 40 })

/-- The function at an address. -/
def function? (h : Heap) (a : Nat) : Option FunctionObject := h.functions[a]?

/-- A new host object. -/
def newObject (o : UserObject) (h : Heap) : Value × Heap :=
  (.userdata h.objects.size, { h with objects := h.objects.push o, used := h.used + 40 })

/-- The host object at an address. -/
def object? (h : Heap) (a : Nat) : Option UserObject := h.objects[a]?

/-- Changes the host object at an address. -/
def setObject (a : Nat) (o : UserObject) (h : Heap) : Heap :=
  { h with objects := h.objects.setIfInBounds a o }

/-- A new thread that is to call `f`. -/
def newThread (f : Value) (h : Heap) : Nat × Heap :=
  (h.threads.size, { h with threads := h.threads.push (.fresh f), used := h.used + 200 })

/-- What a thread is doing. -/
def threadStatus (h : Heap) (a : Nat) : ThreadStatus := h.threads.getD a .finished

/-- Says what a thread is doing. -/
def setThreadStatus (a : Nat) (s : ThreadStatus) (h : Heap) : Heap :=
  { h with threads := h.threads.setIfInBounds a s }

/-! ### Metatables -/

/-- The address of the metatable of a value. -/
def metatable? (h : Heap) : Value → Option Nat
  | .table a => (h.table a).metatable
  | .userdata a =>
    match h.object? a with
    | some (.file _) => some h.registry.fileMeta
    | _ => none
  | v => h.typeMetas.lookup v.typeName

/-- What the metatable of a value says under a name; nil if there is none. -/
def metafield (h : Heap) (v : Value) (name : ByteArray) : Value :=
  match h.metatable? v with
  | some m => h.rawGet m (.str name)
  | none => .nil

/-- Sets the metatable of all values of a type that is not a table. -/
def setTypeMeta (type : String) (m : Option Nat) (h : Heap) : Heap :=
  let others := h.typeMetas.filter (·.1 != type)
  match m with
  | some m => { h with typeMetas := (type, m) :: others }
  | none => { h with typeMetas := others }

end Heap

end MacroStream.Script
