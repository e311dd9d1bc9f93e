import MacroStream.ActiveMacro
import MacroStream.Platform
import MacroStream.Script.Binding
import MacroStream.Script.EntrypointSource

/-!
# Macros as scripts

The engine that runs the scripts of macros: every script gets an interpreter of its own, in which the
host's capabilities and services are bound and modules are looked up by the host. The script becomes
the body of a function that a coroutine runs, so preparing a script runs nothing of it, unless its
text ends that function early.

Nothing runs any more when a session is given up: finalizers of scripts are not called, as nothing
is collected (`Heap`).
-/

namespace MacroStream.Script

/-- A script with the interpreter that it runs in. -/
structure Session where
  interpreter : Interpreter
  /-- The coroutine of the script. -/
  thread : Nat

namespace Session

variable {m : Type → Type} [Monad m]

/-! ### What scripts ask for -/

/-- A path given as bytes. -/
def pathOf (s : ByteArray) : Path := ⟨Text.decodeLossy s⟩

/-- Looks a module up, and says so when it is there. -/
def resolveModule (p : Platform m) (r : ModuleResolver) (name : String) :
    m (Outcome (Except String FoundModule)) := do
  match ← r.resolve p.files name with
  | .error e => return .error e
  | .ok none => return .ok (.error (r.notFoundMessage name))
  | .ok (some found) => do
    p.report ⟨.debug, .modules, "Resolved Lua module",
      [("module", .quoted name), ("chunk", .plain found.chunkName)]⟩
    return .ok (.ok found)

/-- Answers a script by the platform, by capabilities and by a resolver. -/
def respond (p : Platform m) (capabilities : List (Capability m)) (r : ModuleResolver) :
    Responder m
  | .invoke index operation args =>
    match capabilities[index]? with
    | some c => c.invoke operation args
    | none => (return .error (Capability.undefined "?" operation) : m (Outcome Json))
  | .resolve name => resolveModule p r name
  | .print bytes atOnce => p.printForScript bytes atOnce
  | .complain bytes => p.complain bytes
  | .readFile path => p.files.read (pathOf path)
  | .writeFile mode path content => p.files.write mode (pathOf path) content
  | .removeFile path => p.files.remove (pathOf path)
  | .renameFile source target => p.files.rename (pathOf source) (pathOf target)
  | .environment name => do
    let value ← p.environment (Text.decodeLossy name)
    (return value.map String.toUTF8 : m (Option ByteArray))
  | .time => do
    let micros ← p.time
    (return micros.fdiv 1000000 : m Int)
  | .clock => p.clock
  | .exit code => p.exit code.toInt

/-- The resolver for the modules of scripts. -/
def resolver (c : ScriptingConfig) (store : Option StoredMacros) : ModuleResolver :=
  ⟨c.extraModuleSearchPaths.map Path.mk, store⟩

/-! ### Coroutines -/

/-- A value as far as it matters for a line. -/
def given (h : Heap) : Value → Given
  | .str s => .text (Text.decodeLossy s)
  | .int _ => .other "integer"
  | .userdata a =>
    match h.object? a with
    | some (.hostError _) => .other "error"
    | _ => .other "userdata"
  | v => .other v.typeName

/-- Resumes the coroutine of a script. -/
def resume (respond : Responder m) : Coroutine m Session := fun s ↦ do
  let ⟨i, thread⟩ := s
  match ← i.resume respond thread with
  | (.ok (.yielded vs), i) => return (.yielded (vs.map (given i.heap)), ⟨i, thread⟩)
  | (.ok (.returned vs), i) => return (.returned (vs.map (given i.heap)), ⟨i, thread⟩)
  | (.error fault, i) => return (.failed fault.message, ⟨i, thread⟩)

/-- The session for the results of a chunk, of which there has to be exactly one, a coroutine. -/
def ofResults (i : Interpreter) : List Value → Outcome Session
  | [.thread t] => .ok ⟨i, t⟩
  | _ => .error noEntrypoint

/-- A session whose chunk is given as it is, in an interpreter with nothing of a host. -/
def ofChunk (respond : Responder m) (name chunk : String) :
    m (Except ScriptFault (Outcome Session)) := do
  match ← Interpreter.plain.evaluate respond name chunk.toUTF8 with
  | (.ok vs, i) => return .ok (ofResults i vs)
  | (.error fault, _) => return .error fault

/-! ### Starting scripts -/

/-- The error for a script whose chunk fails. -/
def chunkFailed (fault : ScriptFault) : EngineError :=
  .scriptInit ("could not obtain the Lua entrypoint: " ++ fault.message)

/-- Passes on reports. -/
def reportAll (p : Platform m) : List Diagnostic → m Unit
  | [] => pure ()
  | d :: ds => do
    p.report d
    reportAll p ds

/-- An interpreter for macros in which the host's capabilities and services are bound. -/
def prepare (p : Platform m) (respond : Responder m) (c : ScriptingConfig)
    (capabilities : CapabilityRegistry m) (services : HostServices) : m (Outcome Interpreter) := do
  match ← Interpreter.ofConfig respond c with
  | .error e => return .error e
  | .ok i => do
    let ⟨machine, heap⟩ := i
    let (reports, heap) := Binding.bindCapabilities (Binding.outline capabilities)
      (Binding.installSearcher heap)
    reportAll p reports
    return .ok ⟨machine, Binding.bindServices services heap⟩

/-- Answers the script of a macro. -/
def macroResponder (p : Platform m) (c : ScriptingConfig) (host : ScriptHost m) : Responder m :=
  respond p host.macroCapabilities.capabilities (resolver c host.store)

/-- Prepares the script of a macro. -/
def start (p : Platform m) (c : ScriptingConfig) (host : ScriptHost m) (name source : String) :
    m (Outcome Session) := do
  p.report ⟨.debug, .scripts, "Initializing Lua macro", [("macro_name", .quoted name)]⟩
  let answer := macroResponder p c host
  match ← prepare p answer c host.macroCapabilities host.services with
  | .error e => return .error e
  | .ok i =>
    match ← i.evaluate answer (macroChunkName name) (entrypointSource source).toUTF8 with
    | (.ok vs, i) => return ofResults i vs
    | (.error fault, _) => return .error (chunkFailed fault)

end Session

/-- The engine that runs the scripts of macros. -/
def macroEngine {m : Type → Type} [Monad m] (p : Platform m) (c : ScriptingConfig)
    (host : ScriptHost m) : ScriptEngine m Session where
  start := Session.start p c host
  resume := Session.resume (Session.macroResponder p c host)

end MacroStream.Script
