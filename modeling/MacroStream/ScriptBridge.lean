import MacroStream.Entrypoint

/-!
# Bridges to scripts

A bridge holds the entrypoint of a macro until it is disposed of. How a script is started, and how
its coroutine is resumed, is up to a `ScriptEngine`.
-/

namespace MacroStream

/-- How scripts are run: `T` is a script with the interpreter it runs in. -/
structure ScriptEngine (m : Type → Type) (T : Type) where
  /-- Prepares the script with a name and a source, without running it. -/
  start : String → String → m (Outcome T)
  resume : Coroutine m T

/-- A script that runs for a macro. -/
structure ScriptBridge (T : Type) where
  /-- The entrypoint, unless the bridge was disposed of. -/
  entrypoint : Option (Entrypoint T)

namespace ScriptBridge

variable {m : Type → Type} [Monad m] {T : Type}

/-- Starts the script of a macro. -/
def init (engine : ScriptEngine m T) (name source : String) : m (Outcome (ScriptBridge T)) := do
  return (← engine.start name source).map fun t ↦ ⟨some (.ofThread t)⟩

/-- The next line of the script; none if there is none any more. -/
def nextLine (engine : ScriptEngine m T) (b : ScriptBridge T) :
    m (Outcome (Option String) × ScriptBridge T) := do
  match b.entrypoint with
  | some e =>
    let (line, e) ← e.resume engine.resume
    return (line, ⟨some e⟩)
  | none => return (.ok none, b)

/-- How far the script got; one that was disposed of counts as completed. -/
def state (b : ScriptBridge T) : EntrypointState :=
  match b.entrypoint with
  | some e => e.state
  | none => .completed

/-- Lets go of the script. -/
def dispose (_ : ScriptBridge T) : ScriptBridge T := ⟨none⟩

end ScriptBridge

end MacroStream
