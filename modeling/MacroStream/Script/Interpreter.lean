import MacroStream.Config
import MacroStream.Script.Globals
import MacroStream.Script.Interpolation
import MacroStream.Script.Machine

/-!
# Interpreters

An interpreter is a heap with the stacks of its threads. The host loads chunks into it, calls
functions and resumes threads; each of these answers a result or a `ScriptFault`, with the
interpreter as it is afterwards. What scripts want from outside is answered by a `Responder` of the
host's choice.
-/

namespace MacroStream.Script

/-- Answers what scripts want from outside. -/
abbrev Responder (m : Type → Type) := (r : Request) → m r.Reply

/-- Why work for the host failed. -/
inductive ScriptFault where
  /-- A chunk that cannot be read. -/
  | malformed (message : String)
  | runtime (message : String)
  | memory (message : String)
  /-- An error that the host itself raised inside the script. -/
  | host (message : String)
  /-- A thread that cannot be resumed. -/
  | notResumable
  deriving DecidableEq, Repr

/-- The text shown for a fault. -/
def ScriptFault.message : ScriptFault → String
  | malformed m => "syntax error: " ++ m
  | runtime m => "runtime error: " ++ m
  | memory m => "memory error: " ++ m
  | host m => m
  | notResumable => "coroutine is non-resumable"

/-- What a resumed thread did. -/
inductive Resumption where
  | yielded (vs : List Value)
  | returned (vs : List Value)

/-- An interpreter. -/
structure Interpreter where
  machine : Machine := {}
  heap : Heap
  deriving Inhabited

namespace Interpreter

variable {m : Type → Type} [Monad m]

/-- The table of global variables. -/
def globals (i : Interpreter) : Nat := i.heap.registry.globals

/-! ### Work for the host -/

/-- The stack for work that the host does by itself. -/
def workFrames : List Frame := [{ Machine.hostFrame with pending := .none }, Machine.hostFrame]

/-- Takes turns until the work has ended. -/
def finish (respond : Responder m) (start : Turn) : m (Ending × Interpreter) := do
  let (machine, heap, ending) ← run respond stepLimit start
  return (ending, ⟨machine, heap⟩)

/-- Does work that needs more than the heap. -/
def work (respond : Responder m) (i : Interpreter) (x : Action (List Value)) :
    m (Ending × Interpreter) :=
  let ⟨machine, heap⟩ := i
  let (h, s) := x (fun vs h ↦ (h, .answer vs)) { heap with running := 0 }
  finish respond (.go { machine with frames := workFrames, waiting := [] } h s)

/-- The text of a thrown value, up to the first zero byte, as it is shown to the host. -/
def shownText (s : ByteArray) : String := Text.decodeLossy (Token.beforeZero s)

/-- Describes what was thrown. The text of a value may have to be asked of the script, and what that
throws is described instead, at most `fuel` times. -/
def describe (respond : Responder m) : Nat → Interpreter → Thrown → m (ScriptFault × Interpreter)
  | 0, i, _ => return (.runtime "error in error handling", i)
  | fuel + 1, i, t =>
    match t.kind, t.value with
    | .memory, _ => return (.memory "not enough memory", i)
    | _, .str s => return (.runtime (shownText s), i)
    | _, .userdata a =>
      match i.heap.object? a with
      | some (.hostError message) => return (.host message, i)
      | _ => ask fuel i t.value
    | _, v => ask fuel i v
where
  /-- Asks the script for the text of a value. -/
  ask (fuel : Nat) (i : Interpreter) (v : Value) : m (ScriptFault × Interpreter) := do
    match ← work respond i (do return [.str (← Action.toText v)]) with
    | (.returned vs, i) =>
      match vs.headD .nil with
      | .str s => return (.runtime (shownText s), i)
      | _ => return (.runtime "", i)
    | (.threw t, i) => describe respond fuel i t
    | (_, i) => return (.runtime "", i)

/-- How often the text of a thrown value may be asked for. -/
def describeLimit : Nat := 20

/-- The result of work that only returns or throws. -/
def settle (respond : Responder m) (done : Ending × Interpreter) :
    m (Except ScriptFault (List Value) × Interpreter) := do
  match done with
  | (.returned vs, i) | (.yielded vs, i) => return (.ok vs, i)
  | (.threw t, i) => do
    let (fault, i) ← describe respond describeLimit i t
    return (.error fault, i)
  | (.exhausted, i) => return (.error (.runtime "out of steps"), i)

/-- Calls a function. -/
def call (respond : Responder m) (i : Interpreter) (f : Value) (args : List Value) :
    m (Except ScriptFault (List Value) × Interpreter) := do
  settle respond (← finish respond (i.machine.beginCall i.heap f args))

/-- The place of the first zero byte of a text. -/
def zeroByte? (s : ByteArray) : Option Nat := s.data.toList.findIdx? (· = 0)

/-- The fault for a chunk whose name holds a zero byte. -/
def zeroInName (position : Nat) : ScriptFault :=
  .runtime ("invalid name: nul byte found in provided data at position: " ++ Nat.repr position)

/-- Loads a chunk: the function that runs it. -/
def load (respond : Responder m) (i : Interpreter) (name : String) (source : ByteArray) :
    m (Except ScriptFault Value × Interpreter) := do
  let chunk := name.toUTF8
  match zeroByte? chunk with
  | some position => return (.error (zeroInName position), i)
  | none =>
    let env : Value := .table i.globals
    let x : Action (List Value) := do
      match ← Library.compile chunk source "bt".toUTF8 env 0 with
      | .ok f => return [f]
      | .error message => return [.nil, .str message]
    match ← settle respond (← work respond i x) with
    | (.ok [f], i) => return (.ok f, i)
    | (.ok vs, i) =>
      match vs.getD 1 .nil with
      | .str message => return (.error (.malformed (shownText message)), i)
      | _ => return (.error (.malformed ""), i)
    | (.error fault, i) => return (.error fault, i)

/-- Loads a chunk and calls it. -/
def execute (respond : Responder m) (i : Interpreter) (name : String) (source : ByteArray) :
    m (Except ScriptFault (List Value) × Interpreter) := do
  match ← load respond i name source with
  | (.ok f, i) => call respond i f []
  | (.error fault, i) => return (.error fault, i)

/-- Evaluates an expression, or else runs a chunk: a source that can be read behind `return` is an
expression. -/
def evaluate (respond : Responder m) (i : Interpreter) (name : String) (source : ByteArray) :
    m (Except ScriptFault (List Value) × Interpreter) := do
  match ← load respond i name ("return ".toUTF8 ++ source) with
  | (.ok f, i) => call respond i f []
  | (.error _, i) => execute respond i name source

/-- Whether a thread has not ended and does not run. -/
def isResumable (i : Interpreter) (t : Nat) : Bool :=
  match i.heap.threadStatus t with
  | .fresh _ | .suspended => true
  | .active | .finished | .failed _ => false

/-- Resumes a thread without any values. -/
def resume (respond : Responder m) (i : Interpreter) (t : Nat) :
    m (Except ScriptFault Resumption × Interpreter) := do
  if i.isResumable t then
    match ← finish respond (i.machine.beginResume i.heap t []) with
    | (.yielded vs, i) => return (.ok (.yielded vs), i)
    | done => do
      let (result, i) ← settle respond done
      return (result.map .returned, i)
  else return (.error .notResumable, i)

/-! ### Making interpreters -/

/-- An interpreter with libraries and nothing else. -/
def ofLibraries (libraries : LibrarySet) : Interpreter := { heap := Globals.heap libraries }

/-- An interpreter as scripts that are not macros find it. -/
def plain : Interpreter := ofLibraries ⟨false, true⟩

/-- The bytes that a limit in megabytes allows, in a word of 64 bits. -/
def memoryLimit (megabytes : UInt64) : UInt64 := megabytes * 1024 * 1024

/-- An interpreter for macros: with interpolation, and in a sandbox unless the configuration says
otherwise. -/
def ofConfig (respond : Responder m) (c : ScriptingConfig) : m (Outcome Interpreter) := do
  let i := ofLibraries ⟨true, false⟩
  let i := { i with heap := { i.heap with limit := (memoryLimit c.memoryLimitMb).toNat } }
  match ← execute respond i interpolationChunk interpolationSource.toUTF8 with
  | (.error fault, _) =>
    return .error (.scriptInit ("Failed to install f(): " ++ fault.message))
  | (.ok _, i) =>
    return .ok (if c.sandbox then { i with heap := Globals.sandbox i.heap } else i)

end Interpreter

end MacroStream.Script
