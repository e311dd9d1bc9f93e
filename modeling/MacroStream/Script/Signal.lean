import MacroStream.Json
import MacroStream.ModuleResolver
import MacroStream.Script.Heap

/-!
# Computations of a script

A computation that needs nothing but the heap runs by itself; one that calls a function, switches to
another thread or asks the host for something stops with a `Signal`, which says what it needs and
how it goes on with the answer. `Action` is the monad of such computations, in continuation-passing
form: a computation is given what is to be done with its result.

Nothing here runs anything: signals are answered by the machine.
-/

namespace MacroStream.Script

/-- What a function or a value is called where it is used: the kind of name, and the name. -/
abbrev NameInUse := String × ByteArray

/-- Where a function is called from. -/
structure CallSite where
  /-- The line of the call; 0 if no script calls. -/
  line : Nat := 0
  name : Option NameInUse := none

/-- A place in a chunk. -/
structure Place where
  source : ByteArray
  line : Nat

/-- Why a computation was given up. -/
inductive ThrowKind where
  | runtime
  /-- There is no more memory. -/
  | memory
  /-- Handling an error went wrong too often. -/
  | handler
  deriving DecidableEq, Repr

/-- What is thrown. -/
structure Thrown where
  value : Value
  kind : ThrowKind := .runtime

/-- What can be known of a function that has not returned yet. -/
structure FrameView where
  function : Value
  /-- What is known of a function of a script. -/
  info : Option FunctionInfo
  line : Nat
  /-- The local variables with their addresses, the oldest first. -/
  locals : List (Name × Nat)
  varargs : List Value
  name : Option NameInUse
  /-- Whether the function took the place of the one that called it. -/
  isTail : Bool

/-- What a script wants from outside. -/
inductive Request where
  /-- Runs an operation of the capability at a position. -/
  | invoke (capability : Nat) (operation : String) (args : List Json)
  /-- Looks a module up. -/
  | resolve (name : String)
  /-- Writes to the standard output, at once or when it is convenient. -/
  | print (bytes : ByteArray) (atOnce : Bool)
  /-- Writes to the standard error. -/
  | complain (bytes : ByteArray)
  | readFile (path : ByteArray)
  | writeFile (mode : WriteMode) (path content : ByteArray)
  | removeFile (path : ByteArray)
  | renameFile (source target : ByteArray)
  | environment (name : ByteArray)
  /-- The seconds since the start of 1970. -/
  | time
  /-- The seconds of processor time used. -/
  | clock
  /-- Ends the program. -/
  | exit (code : Int64)

/-- What answers a request. -/
def Request.Reply : Request → Type
  | invoke .. => Outcome Json
  | resolve .. => Outcome (Except String FoundModule)
  | print .. => Unit
  | complain .. => Unit
  | readFile .. => Except FileFault ByteArray
  | writeFile .. => Except FileFault Unit
  | removeFile .. => Except FileFault Unit
  | renameFile .. => Except FileFault Unit
  | environment .. => Option ByteArray
  | time => Int
  | clock => Float
  | exit .. => Unit

/-- What a statement does to the statements behind it. -/
inductive Effect where
  /-- Goes on with the next statement. -/
  | next
  /-- Brings variables into scope, the first one first. -/
  | declare (vars : List (Name × Nat))
  /-- As `declare`; the variable at the address has to be closed. -/
  | declareClosing (vars : List (Name × Nat)) (cell : Nat)
  | enter (body : Block)
  | loopWhile (condition : Expr) (body : Block)
  | loopRepeat (body : Block)
  /-- A loop over `count + 1` integers. -/
  | loopInts (name : Name) (first step : Int64) (count : UInt64) (body : Block)
  | loopFloats (name : Name) (first limit step : Float) (body : Block)
  | loopEach (names : List Name) (iterator state control closing : Value) (body : Block)
      (line : Nat)
  /-- Goes on with what the iterator of the innermost loop gave. -/
  | iterate (vs : List Value)
  /-- Leaves the innermost loop. -/
  | leaveLoop
  /-- Starts the body of the innermost loop again. -/
  | repeatLoop
  | jump (label : Name)
  | return (vs : List Value)

/-- What a computation needs in order to go on. -/
inductive Signal where
  /-- A function of the host or of a library is done. -/
  | answer (vs : List Value)
  /-- A statement is done. -/
  | effect (e : Effect)
  | call (f : Value) (args : List Value) (site : CallSite)
      (k : List Value → Heap → Heap × Signal)
  /-- Returns what a call answers. -/
  | tailCall (f : Value) (args : List Value) (site : CallSite)
  | throw (t : Thrown)
  /-- Calls a function; what it throws is caught, after the handler has seen it. -/
  | protect (handler : Option Value) (f : Value) (args : List Value)
      (k : Except Value (List Value) → Heap → Heap × Signal)
  | yield (vs : List Value) (k : List Value → Heap → Heap × Signal)
  | resume (thread : Nat) (args : List Value)
      (k : Except Value (List Value) → Heap → Heap × Signal)
  /-- Ends a thread that does not run, and closes its variables. -/
  | closeThread (thread : Nat) (k : Except Value Unit → Heap → Heap × Signal)
  /-- Looks at the functions of a thread that have not returned; 0 is the innermost. -/
  | view (thread level : Nat) (k : Option FrameView → Heap → Heap × Signal)
  /-- Asks whether the running thread can yield. -/
  | canYield (k : Bool → Heap → Heap × Signal)
  /-- Asks how deeply calls from outside the script language are nested. -/
  | depth (k : Nat → Heap → Heap × Signal)
  /-- Finds out how much memory is really in use. -/
  | collect (k : Heap → Heap × Signal)
  | ask (r : Request) (k : r.Reply → Heap → Heap × Signal)

instance : Inhabited Signal := ⟨.answer []⟩

/-- Computations with a result of type `α`. -/
def Action (α : Type) : Type := (α → Heap → Heap × Signal) → Heap → Heap × Signal

namespace Action

variable {α β : Type}

instance : Monad Action where
  pure a := fun k ↦ k a
  bind x f := fun k ↦ x fun a ↦ f a k

instance : Inhabited (Action α) := ⟨fun _ h ↦ (h, default)⟩

/-- Reads the heap. -/
@[inline] def read (f : Heap → α) : Action α := fun k h ↦ k (f h) h

/-- Changes the heap. -/
@[inline] def update (f : Heap → Heap) : Action Unit := fun k h ↦ k () (f h)

/-- Changes the heap, with a result. -/
@[inline] def modifyGet (f : Heap → α × Heap) : Action α := fun k h ↦
  let (a, h) := f h
  k a h

/-- A new variable. -/
def newCell (v : Value) : Action Nat := modifyGet (·.newCell v)

/-- Gives up with a value. -/
def throw (v : Value) : Action α := fun _ h ↦ (h, .throw ⟨v, .runtime⟩)

/-- Calls a function. -/
def call (f : Value) (args : List Value) (site : CallSite) : Action (List Value) :=
  fun k h ↦ (h, .call f args site k)

/-- Calls a function from outside the script language. -/
def callPlain (f : Value) (args : List Value) : Action (List Value) := call f args {}

/-- Looks at the function `level` levels above the running one. -/
def view (level : Nat) : Action (Option FrameView) :=
  fun k h ↦ let t := h.running; (h, .view t level k)

/-- Asks the host. -/
def ask (r : Request) : Action r.Reply := fun k h ↦ (h, .ask r k)

/-- Gives up because there is no more memory. -/
def outOfMemory : Action α := fun _ h ↦
  (h, .throw ⟨.ofString "not enough memory", .memory⟩)

/-- Asks for memory. -/
def reserve (bytes : Nat) : Action Unit := fun k h ↦
  if h.limit ≠ 0 && h.limit < h.used + bytes then
    (h, .collect fun h ↦
      if h.limit < h.used + bytes then outOfMemory k h
      else k () { h with used := h.used + bytes })
  else k () { h with used := h.used + bytes }

/-- Asks for the memory of a text that is put together in a buffer. The buffer of a long text takes as
much again until the text is finished. -/
def reserveBuilt (bytes : Nat) : Action Unit :=
  if bytes ≤ 1024 then reserve bytes
  else do
    reserve (2 * bytes)
    update fun h ↦ { h with used := h.used - bytes }

end Action

end MacroStream.Script
