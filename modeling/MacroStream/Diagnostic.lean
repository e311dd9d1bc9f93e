import MacroStream.LogLevel
import MacroStream.Text.Quoted

/-!
# Diagnostics

What the engine reports while it works: a level, the part of the engine that reports, a message, and
named details. A detail is shown either as it is or between quotes.
-/

namespace MacroStream

/-- How a detail of a diagnostic is shown. -/
inductive Detail where
  | plain (text : String)
  | quoted (text : String)
  deriving DecidableEq, Repr

/-- The text of a detail. -/
def Detail.text : Detail → String
  | plain s => s
  | quoted s => Text.quoted s

/-- The parts of the engine that report. -/
inductive Topic where
  /-- The program that runs a macro from a file. -/
  | program
  /-- Working through a macro. -/
  | macros
  /-- Starting scripts. -/
  | scripts
  /-- Binding what the host lends. -/
  | bindings
  /-- Looking modules up. -/
  | modules
  deriving DecidableEq, Repr

/-- The path by which a part of the engine is selected. -/
def Topic.path : Topic → String
  | program => "macro_engine"
  | macros => "macro_engine::macros::active"
  | scripts => "macro_engine::script::bridge"
  | bindings => "macro_engine::script::api"
  | modules => "macro_engine::script::resolver"

/-- A report. -/
structure Diagnostic where
  level : LogLevel
  topic : Topic
  message : String
  details : List (String × Detail) := []
  deriving DecidableEq, Repr

namespace Diagnostic

/-- The text of a report: the message, and behind it the details. -/
def text (d : Diagnostic) : String :=
  " ".intercalate (d.message :: d.details.map fun (name, detail) ↦ name ++ "=" ++ detail.text)

end Diagnostic

end MacroStream
