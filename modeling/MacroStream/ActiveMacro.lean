import MacroStream.Command.LineParser
import MacroStream.CraftLoop
import MacroStream.Diagnostic
import MacroStream.MacroNode
import MacroStream.ScriptBridge

/-!
# Active macros

A macro that is being worked through, one command at a time. The steps of a macro in the command
language are known from the start, and a cursor goes through them; the steps of a script are those
that it gave so far, and the cursor says nothing about them.

The script of a macro is started when its first step is wanted. If it cannot be started, the next
request tries again.
-/

namespace MacroStream

/-- A macro that is being worked through. -/
structure ActiveMacro (T : Type) where
  node : MacroNode
  /-- The steps; of a script, the commands that it gave so far. -/
  steps : List Command
  /-- The cursor, which is -1 right behind a loop to the start. -/
  stepIndex : Int
  /-- How many lines the source has. -/
  lineCount : Nat
  parser : CommandParser
  /-- The script, once it has been started and until it is disposed of. -/
  bridge : Option (ScriptBridge T)
  disposed : Bool

namespace ActiveMacro

variable {m : Type → Type} [Monad m] {T : Type}

/-! ### Diagnostics -/

/-- The name of a macro in diagnostics. -/
def nameDetail (name : String) : String × Detail := ("macro_name", .plain name)

/-- The word for a language in diagnostics. -/
def languageWord : Language → String
  | .native => "Native"
  | .lua => "Lua"

/-- Says that a macro waits to be worked through. -/
def queued (node : MacroNode) (steps lines : Nat) : Diagnostic :=
  ⟨.info, .macros, "Macro queued",
    [nameDetail node.name, ("language", .plain (languageWord node.language)),
      ("steps", .plain (Nat.repr steps)), ("lines", .plain (Nat.repr lines))]⟩

/-- Says that a macro starts again. -/
def looping (node : MacroNode) : Diagnostic :=
  ⟨.debug, .macros, "Looping to start", [nameDetail node.name]⟩

/-- Says that a script has no more lines. -/
def scriptFinished (node : MacroNode) (steps : Nat) : Diagnostic :=
  ⟨.info, .macros, "Lua macro finished",
    [nameDetail node.name, ("steps", .plain (Nat.repr steps))]⟩

/-- Says that a line of a script was ignored. -/
def notACommand (node : MacroNode) (line : String) : Diagnostic :=
  ⟨.debug, .macros, "Yielded line is not a command",
    [nameDetail node.name, ("line", .plain line)]⟩

/-- Says that a script was disposed of. -/
def released (node : MacroNode) : Diagnostic :=
  ⟨.debug, .macros, "Released Lua interpreter", [nameDetail node.name]⟩

/-! ### Working through a macro -/

/-- The steps that are known before anything runs. -/
def initialSteps (c : CraftLoopConfig) (parser : CommandParser) (node : MacroNode) :
    Outcome (List Command) :=
  if node.isScript then .ok []
  else do
    let contents ← c.transform node.contents node.craftLoop node.craftLoopCount
    parser.parse contents

/-- Prepares a macro. -/
def prepare (c : CraftLoopConfig) (parser : CommandParser) (node : MacroNode) :
    Outcome (ActiveMacro T) := do
  let steps ← initialSteps c parser node
  return { node, steps, stepIndex := 0, lineCount := (Text.splitLines node.contents).length,
           parser, bridge := none, disposed := false }

/-- Prepares a macro and says so. -/
def start (report : Diagnostic → m Unit) (c : CraftLoopConfig) (parser : CommandParser)
    (node : MacroNode) : m (Outcome (ActiveMacro T)) := do
  match prepare c parser node with
  | .error e => return .error e
  | .ok a => do
    report (queued node a.steps.length a.lineCount)
    return .ok a

/-- Moves to the next step, also behind the last one. -/
def advance (a : ActiveMacro T) : ActiveMacro T := { a with stepIndex := a.stepIndex + 1 }

/-- The error for a script that is to start again. -/
def noLoop : EngineError := .unsupportedOperation "loop is not supported for Lua macros"

/-- Moves in front of the first step. -/
def loopToStart (report : Diagnostic → m Unit) (a : ActiveMacro T) :
    m (Outcome Unit × ActiveMacro T) := do
  if a.node.isScript then return (.error noLoop, a)
  else do
    report (looping a.node)
    return (.ok (), { a with stepIndex := -1 })

/-- The step at the cursor. -/
def stepAtCursor (a : ActiveMacro T) : Option Command :=
  if 0 ≤ a.stepIndex then a.steps[a.stepIndex.toNat]? else none

/-- The command of a line that a script gave. -/
def takeLine (report : Diagnostic → m Unit) (a : ActiveMacro T) (line : String) :
    m (Option Command × ActiveMacro T) := do
  match a.parser.parseLine line with
  | some c => return (some c, { a with steps := a.steps ++ [c] })
  | none => do
    report (notACommand a.node line)
    return (none, a)

/-- The next command of a script that has been started. -/
def scriptStep (report : Diagnostic → m Unit) (engine : ScriptEngine m T) (a : ActiveMacro T)
    (b : ScriptBridge T) : m (Outcome (Option Command) × ActiveMacro T) := do
  let (line, b) ← b.nextLine engine
  let a := { a with bridge := some b }
  match line with
  | .error e => return (.error e, a)
  | .ok none => do
    report (scriptFinished a.node a.steps.length)
    return (.ok none, a)
  | .ok (some line) => do
    let (c, a) ← takeLine report a line
    return (.ok c, a)

/-- The command to carry out now. None means that the macro is done or, while its script still runs,
that the line it gave is no command. -/
def currentStep (report : Diagnostic → m Unit) (engine : ScriptEngine m T) (a : ActiveMacro T) :
    m (Outcome (Option Command) × ActiveMacro T) := do
  if !a.node.isScript then return (.ok a.stepAtCursor, a)
  else if a.disposed then return (.ok none, a)
  else
    match a.bridge with
    | some b => scriptStep report engine a b
    | none =>
      match ← ScriptBridge.init engine a.node.name a.node.contents with
      | .error e => return (.error e, a)
      | .ok b => scriptStep report engine a b

/-- Whether the script of the macro may still give lines. -/
def isRunningScript (a : ActiveMacro T) : Bool :=
  match a.bridge with
  | some b => !b.state.isTerminal
  | none => false

/-- How far the script of the macro got, if it was started. -/
def scriptState (a : ActiveMacro T) : Option EntrypointState := a.bridge.map ScriptBridge.state

/-- Lets go of the script, if there is one. -/
def dispose (report : Diagnostic → m Unit) (a : ActiveMacro T) : m (ActiveMacro T) := do
  match a.bridge with
  | some _ => report (released a.node)
  | none => pure ()
  return { a with bridge := none, disposed := true }

end ActiveMacro

end MacroStream
