import MacroStream.Error
import MacroStream.Text.Blank
import MacroStream.Text.Lowercase

/-!
# Log levels

The levels of diagnostics, from the most talkative to the least, and their names.
-/

namespace MacroStream

/-- How important a diagnostic is. -/
inductive LogLevel where
  | trace
  | debug
  | info
  | warn
  | error
  deriving DecidableEq, Repr

namespace LogLevel

/-- The name written in front of a diagnostic. -/
def name : LogLevel → String
  | trace => "TRACE"
  | debug => "DEBUG"
  | info => "INFO"
  | warn => "WARN"
  | error => "ERROR"

/-- The place of a level, counted from the least important. -/
def rank : LogLevel → Nat
  | trace => 0
  | debug => 1
  | info => 2
  | warn => 3
  | error => 4

/-- The level with a name in lower case. -/
def ofLowerName? : String → Option LogLevel
  | "trace" => some trace
  | "debug" => some debug
  | "info" => some info
  | "warn" | "warning" => some warn
  | "error" => some error
  | _ => none

/-- The level with a configured name: blanks around it and the case of its letters are ignored. -/
def ofName (s : String) : Outcome LogLevel :=
  let name := Text.lowercase (Text.trim s)
  match ofLowerName? name with
  | some l => .ok l
  | none => .error (.validation ("unknown log level '" ++ name ++ "'"))

end LogLevel

end MacroStream
