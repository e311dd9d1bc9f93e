/-!
# Errors

What can go wrong while a macro is prepared or run, with the one wording of each. Errors carry the
text that their cause supplied: hosts raise them too, with texts of their own.
-/

namespace MacroStream

/-- Why a macro, a configuration or a host operation failed. -/
inductive EngineError where
  /-- A setting that contradicts itself, such as a craft loop template without its placeholder. -/
  | configuration (message : String)
  /-- An operation that this kind of macro does not have. -/
  | unsupportedOperation (message : String)
  /-- The interpreter gave no entrypoint coroutine. -/
  | scriptInit (message : String)
  /-- Raised while a script was running. -/
  | scriptRuntime (message : String)
  /-- Malformed macro text, with the number of the offending line, counted from 1. -/
  | parse (line : Nat) (message : String)
  /-- A file could not be read or written. -/
  | io (message : String)
  /-- Input from a user was refused. -/
  | validation (message : String)
  deriving DecidableEq, Repr

namespace EngineError

/-- The text shown for an error. -/
def message : EngineError → String
  | configuration m => "configuration error: " ++ m
  | unsupportedOperation m => "unsupported operation: " ++ m
  | scriptInit m => "script init error: " ++ m
  | scriptRuntime m => "script error: " ++ m
  | parse line m => "parse error on line " ++ Nat.repr line ++ ": " ++ m
  | io m => "I/O error: " ++ m
  | validation m => "validation error: " ++ m

instance : ToString EngineError := ⟨message⟩

end EngineError

/-- The outcome of an engine operation. -/
abbrev Outcome (α : Type) := Except EngineError α

end MacroStream
