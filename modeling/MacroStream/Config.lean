import MacroStream.Error
import MacroStream.Text.Replace

/-!
# Configuration

The settings of the engine and their defaults, what the environment adds to them, and the one rule
that ties two of them together: a craft loop template has to have a place for the macro.
-/

namespace MacroStream

/-- Marks where a craft loop template takes the macro. -/
def macroPlaceholder : String := "\x7b\x7bmacro\x7d\x7d"

/-- Marks where a craft loop template takes the count. -/
def countPlaceholder : String := "\x7b\x7bcount\x7d\x7d"

/-- The template used when none is configured. -/
def defaultTemplate : String :=
  "\n".intercalate
    ["/craft " ++ countPlaceholder,
      "/waitaddon \"RecipeNote\" <maxwait.5>",
      "/click \"RecipeNote Synthesize\"",
      "/waitaddon \"Synthesis\" <maxwait.5>",
      macroPlaceholder,
      "/loop"]

/-- How macros are repeated for crafting. -/
structure CraftLoopConfig where
  /-- Use the template instead of the fixed steps. -/
  templateEnabled : Bool := false
  template : String := defaultTemplate
  /-- The wait allowed to the synthesized steps that wait; 0 leaves it out. -/
  maxWait : UInt32 := 0
  /-- Whether the synthesized gate and loop steps are echoed. -/
  echo : Bool := false
  /-- Whether a loop starts with the crafting log open, not the synthesis window. -/
  fromRecipeNote : Bool := true
  deriving DecidableEq, Repr, Inhabited

/-- How scripts are run. -/
structure ScriptingConfig where
  /-- Further directories in which modules are looked up, in order. -/
  extraModuleSearchPaths : List String := []
  /-- Whether scripts lose access to the process and the file system. -/
  sandbox : Bool := true
  /-- The memory limit in megabytes; 0 is no limit. -/
  memoryLimitMb : UInt64 := 0
  deriving DecidableEq, Repr, Inhabited

/-- Where diagnostics go. -/
structure LoggingConfig where
  /-- The name of the level. -/
  level : String := "info"
  /-- A file for diagnostics besides the console; empty for none. -/
  file : String := ""
  deriving DecidableEq, Repr, Inhabited

/-- All settings. -/
structure Config where
  craftLoop : CraftLoopConfig := {}
  scripting : ScriptingConfig := {}
  logging : LoggingConfig := {}
  deriving DecidableEq, Repr, Inhabited

namespace CraftLoopConfig

/-- Whether the template has a place for the macro. -/
def hasPlaceholder (c : CraftLoopConfig) : Bool := Text.contains c.template macroPlaceholder

/-- The error for a template that has no place for the macro. -/
def missingPlaceholder : EngineError :=
  .configuration
    ("craft loop template does not contain the " ++ macroPlaceholder ++ " placeholder")

end CraftLoopConfig

namespace Config

/-- The variable that replaces the log level. -/
def levelVariable : String := "MACRO_ENGINE_LOG_LEVEL"

/-- The variable that adds module directories. -/
def pathsVariable : String := "MACRO_ENGINE_LUA_PATHS"

/-- The non-empty pieces between colons. -/
def splitPaths (s : String) : List String :=
  ((pieces s.toList).filter fun p ↦ !p.isEmpty).map String.ofList
where
  /-- The pieces between colons. -/
  pieces : List Char → List (List Char)
    | [] => [[]]
    | c :: cs =>
      match pieces cs with
      | [] => [[c]]
      | p :: ps => if c = ':' then [] :: p :: ps else (c :: p) :: ps

/-- The settings with what the environment says: a non-empty level replaces the configured one, and
directories follow the configured ones. -/
def withEnvironment (env : String → Option String) (c : Config) : Config :=
  let level := match env levelVariable with
    | some l => if l.isEmpty then c.logging.level else l
    | none => c.logging.level
  let paths := (env pathsVariable).elim [] splitPaths
  { c with
    logging := { c.logging with level }
    scripting :=
      { c.scripting with
        extraModuleSearchPaths := c.scripting.extraModuleSearchPaths ++ paths } }

/-- Refuses a template that is in use and has no place for the macro. -/
def validate (c : Config) : Outcome Unit :=
  if c.craftLoop.templateEnabled && !c.craftLoop.hasPlaceholder then
    .error CraftLoopConfig.missingPlaceholder
  else .ok ()

end Config

end MacroStream
