import MacroStream.Diagnostic
import MacroStream.Files

/-!
# The platform

What the engine needs from the program that it is part of, as a record of operations in an arbitrary
monad: files, a place for diagnostics, and what scripts may ask of the process.
-/

namespace MacroStream

/-- Operations of the program around the engine. -/
structure Platform (m : Type → Type) where
  files : FileSystem m
  /-- Takes a diagnostic. -/
  report : Diagnostic → m Unit
  /-- Writes to the standard output. -/
  print : ByteArray → m Unit
  /-- Writes to the standard output for a script, at once or when it is convenient. -/
  printForScript : ByteArray → Bool → m Unit
  /-- Writes to the standard error. -/
  complain : ByteArray → m Unit
  /-- A variable of the environment. -/
  environment : String → m (Option String)
  /-- The microseconds since the start of 1970. -/
  time : m Int
  /-- The seconds of processor time used. -/
  clock : m Float
  /-- Ends the program. -/
  exit : Int → m Unit

end MacroStream
