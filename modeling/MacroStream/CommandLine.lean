import MacroStream.Config.File
import MacroStream.Logger
import MacroStream.Script.Session

/-!
# Running a macro from a file

The program reads a macro from a file and settings from another one, works through the macro, and
prints its commands with their numbers. The macros next to the file can be used as modules.
-/

namespace MacroStream.CommandLine

variable {m : Type → Type} [Monad m]

/-! ### Stored macros -/

/-- The directory that a file stands in, as a path to look into. -/
def directoryOf (file : Path) : Path :=
  match file.parent? with
  | some dir => if dir.text.isEmpty then ⟨"."⟩ else dir
  | none => ⟨"."⟩

/-- Says that a file next to the macro cannot be read. -/
def skipping (file : Path) (e : FileFault) : Diagnostic :=
  ⟨.warn, .program, "Skipping " ++ file.text ++ ": " ++ e.message, []⟩

/-- The store with one more file, unless it is the macro itself. -/
def addSibling (p : Platform m) (file : Path) (store : MacroStore) (sibling : Path) :
    m MacroStore := do
  if (← p.files.isFile sibling) && !sibling.same file then
    match sibling.stem? with
    | none => return store
    | some stem =>
      match ← p.files.readText sibling with
      | .ok text => return store.insert stem text
      | .error e => do
        p.report (skipping sibling e)
        return store
  else return store

/-- The store with more files. -/
def addSiblings (p : Platform m) (file : Path) (store : MacroStore) : List Path → m MacroStore
  | [] => return store
  | s :: ss => do addSiblings p file (← addSibling p file store s) ss

/-- The macros next to a file, by their names without endings. -/
def siblingStore (p : Platform m) (file : Path) : m MacroStore := do
  let dir := directoryOf file
  match ← p.files.list dir with
  | .ok names => addSiblings p file .empty (names.map fun n ↦ dir.join ⟨n⟩)
  | .error _ => return .empty

/-! ### Printing commands -/

/-- The line for the command with a number. -/
def commandLine (number : Nat) (c : Command) : String :=
  let n := Nat.repr number
  String.ofList (List.replicate (4 - n.length) ' ') ++ n ++ "  " ++ c.text ++ "\n"

/-- The error for a macro that does not come to an end. -/
def outOfSteps : EngineError := .scriptRuntime "out of steps"

/-- Works through a macro, with at most `fuel` requests for a step, and prints its commands behind
the first `printed`; answers how many were printed in all. -/
def printSteps {T : Type} (report : Diagnostic → m Unit) (print : ByteArray → m Unit)
    (engine : ScriptEngine m T) : Nat → Nat → ActiveMacro T → m (Outcome Nat × ActiveMacro T)
  | 0, _, a => return (.error outOfSteps, a)
  | fuel + 1, printed, a => do
    match ← a.currentStep report engine with
    | (.error e, a) => return (.error e, a)
    | (.ok (some c), a) => do
      print (commandLine (printed + 1) c).toUTF8
      printSteps report print engine fuel (printed + 1) a.advance
    | (.ok none, a) =>
      if a.isRunningScript then printSteps report print engine fuel printed a
      else return (.ok printed, a)

/-- Works through a macro and prints its commands; answers how many there were. -/
def runMacro {T : Type} (report : Diagnostic → m Unit) (print : ByteArray → m Unit)
    (engine : ScriptEngine m T) (c : CraftLoopConfig) (node : MacroNode) : m (Outcome Nat) := do
  match ← ActiveMacro.start report c lineParser node with
  | .error e => return .error e
  | .ok a =>
    match ← printSteps report print engine (a.steps.length + Script.stepLimit) 0 a with
    | (.error e, _) => return .error e
    | (.ok n, a) => do
      let _ ← a.dispose report
      return .ok n

/-- The macro in a file. -/
def macroOfFile (file : Path) (contents : String) : MacroNode :=
  { name := file.stem?.getD "", contents, language := Language.ofPath file }

/-- What goes on while a macro is worked through. -/
def macroSpan (name : String) : LogSpan := ⟨"macro", [("name", name)]⟩

/-- Runs the macro in a file; answers how many commands it had. -/
def runFile (p : Platform m) (logger : Logger) (c : Config) (file : Path) : m (Outcome Nat) := do
  match ← p.files.readText file with
  | .error e => return .error (.io e.message)
  | .ok contents => do
    let node := macroOfFile file contents
    let p := { p with report := { logger with span := some (macroSpan node.name) }.report p }
    let store ← siblingStore p file
    let host : ScriptHost m := { ScriptHost.empty with store := some store }
    runMacro p.report p.print (Script.macroEngine p c.scripting host) c.craftLoop node

/-! ### The program -/

/-- What is said when no macro is named. -/
def usage : String := "usage: macro-engine <macro-file> [config.toml]"

/-- The file with the settings if none is named. -/
def defaultConfigFile : String := "config.toml"

/-- The variables of the environment that settings look at. -/
def settingsEnvironment (p : Platform m) : m (String → Option String) := do
  let level ← p.environment Config.levelVariable
  let paths ← p.environment Config.pathsVariable
  return fun name ↦
    if name = Config.levelVariable then level
    else if name = Config.pathsVariable then paths
    else none

/-- The settings in a file, or the usual ones if they cannot be had. -/
def loadConfig (p : Platform m) (file : String) : m Config := do
  let env ← settingsEnvironment p
  match ← Config.load p.files ⟨file⟩ with
  | .ok c => return c.withEnvironment env
  | .error e => do
    Logger.complainAll p
      ["Failed to load " ++ file ++ ": " ++ e.message, "Using default configuration."]
    return ({} : Config).withEnvironment env

/-- The logger for the settings, or one that writes to the standard error only. -/
def makeLogger (p : Platform m) (c : LoggingConfig) : m Logger := do
  match ← Logger.ofConfig p c with
  | .ok l => return l
  | .error e => do
    Logger.complainAll p ["Failed to initialize logging: " ++ e.message]
    Logger.fallback p c

/-- Reports an error that ends the program. -/
def reportError (p : Platform m) (logger : Logger) (e : EngineError) : m Unit :=
  logger.report p ⟨.error, .program, e.message, []⟩

/-- Runs the macro in a file with settings; answers whether all went well. -/
def runWith (p : Platform m) (logger : Logger) (c : Config) (file : String) : m Bool := do
  match c.validate with
  | .error e => do
    reportError p logger e
    return false
  | .ok () =>
    match ← runFile p logger c ⟨file⟩ with
    | .ok n => do
      logger.report p
        ⟨.info, .program, "Macro finished after " ++ Nat.repr n ++ " steps", []⟩
      return true
    | .error e => do
      reportError p logger e
      return false

/-- The program with its arguments; answers whether all went well. -/
def run (p : Platform m) (args : List String) : m Bool := do
  match args with
  | [] => do
    Logger.complainAll p [usage]
    return false
  | file :: rest => do
    let c ← loadConfig p (rest.headD defaultConfigFile)
    let logger ← makeLogger p c.logging
    runWith p logger c file

end MacroStream.CommandLine
