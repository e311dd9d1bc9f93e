import MacroStream.Error

/-!
# Entrypoints

A macro that is a script runs as a coroutine, which is resumed for one line at a time. What a
coroutine does when it is resumed is left open: `Coroutine` is any way to resume a thing of type
`T`, and an `Entrypoint` is such a thing together with a state.

The state tells whether resuming makes any difference: once it is terminal, or once the coroutine
was released, the coroutine is left alone and there is no line any more.
-/

namespace MacroStream

/-- A value that a coroutine gave, as far as it matters here. -/
inductive Given where
  | text (s : String)
  /-- A value that is no string, with the name of its type. -/
  | other (type : String)
  deriving DecidableEq, Repr

/-- What a coroutine did when it was resumed. -/
inductive Resumed where
  | yielded (vs : List Given)
  | returned (vs : List Given)
  | failed (message : String)
  deriving DecidableEq, Repr

/-- A way to resume a coroutine of type `T`. -/
abbrev Coroutine (m : Type → Type) (T : Type) := T → m (Resumed × T)

/-- How far a coroutine got. -/
inductive EntrypointState where
  | notStarted
  | suspended
  /-- It returned, gave nothing, or was released. -/
  | completed
  /-- It failed, or gave something that is no string. -/
  | failed
  deriving DecidableEq, Repr

namespace EntrypointState

/-- Whether resuming makes no difference any more. -/
def isTerminal : EntrypointState → Bool
  | completed | failed => true
  | notStarted | suspended => false

/-- The name of a state. -/
def name : EntrypointState → String
  | notStarted => "NotStarted"
  | suspended => "Suspended"
  | completed => "Completed"
  | failed => "Failed"

end EntrypointState

/-- The error for a chunk that does not give exactly one coroutine. -/
def noEntrypoint : EngineError := .scriptInit "could not obtain the Lua entrypoint"

/-- The error for a value that is no string. -/
def notALine (type : String) : EngineError :=
  .scriptRuntime ("Lua macro yielded a non-string (" ++ type ++ ")")

/-- A coroutine that gives lines. -/
structure Entrypoint (T : Type) where
  /-- The coroutine, unless it was released. -/
  thread : Option T
  state : EntrypointState

namespace Entrypoint

variable {m : Type → Type} [Monad m] {T : Type}

/-- An entrypoint whose coroutine has not been resumed. -/
def ofThread (t : T) : Entrypoint T := ⟨some t, .notStarted⟩

/-- The line that the first of some values is, and the state afterwards; `rest` is the state if there
is one. -/
def firstLine (rest : EntrypointState) : List Given → Outcome (Option String) × EntrypointState
  | [] => (.ok none, .completed)
  | .text s :: _ => (.ok (some s), rest)
  | .other type :: _ => (.error (notALine type), .failed)

/-- What a resumption comes to. -/
def judge : Resumed → Outcome (Option String) × EntrypointState
  | .yielded vs => firstLine .suspended vs
  | .returned vs => firstLine .completed vs
  | .failed message => (.error (.scriptRuntime message), .failed)

/-- Runs the coroutine up to its next line; none if there is none any more. -/
def resume (co : Coroutine m T) (e : Entrypoint T) :
    m (Outcome (Option String) × Entrypoint T) := do
  match e.state.isTerminal, e.thread with
  | false, some t =>
    let (resumed, t) ← co t
    let (line, state) := judge resumed
    return (line, ⟨some t, state⟩)
  | _, _ => return (.ok none, e)

/-- Lets go of the coroutine. -/
def release (e : Entrypoint T) : Entrypoint T :=
  ⟨none, if e.state.isTerminal then e.state else .completed⟩

end Entrypoint

end MacroStream
