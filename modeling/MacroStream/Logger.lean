import MacroStream.Calendar
import MacroStream.Config
import MacroStream.LogFilter
import MacroStream.Platform

/-!
# Loggers

A logger writes diagnostics as lines, to the standard error and to a file if one is configured. A
line has a time, a level, and the spans that go on; in the file it also names the part of the engine
that reports.
-/

namespace MacroStream

/-- Where diagnostics go, and which. -/
structure Logger where
  filter : LogFilter
  /-- A file besides the standard error. -/
  file : Option Path := none
  /-- What goes on. -/
  span : Option LogSpan := none

namespace Logger

/-- The variable whose directives refine the configured level. -/
def filterVariable : String := "RUST_LOG"

/-- A number with zeros in front, at least `n` digits long. -/
def padded (n : Nat) (v : Int) : String :=
  let ds := Nat.repr v.toNat
  String.ofList (List.replicate (n - ds.length) '0') ++ ds

/-- A time in microseconds since the start of 1970. -/
def timeText (micros : Int) : String :=
  let d := Calendar.ofSeconds (micros.fdiv 1000000)
  padded 4 d.year ++ "-" ++ padded 2 d.month ++ "-" ++ padded 2 d.day ++ "T" ++
    padded 2 d.hour ++ ":" ++ padded 2 d.minute ++ ":" ++ padded 2 d.second ++ "." ++
    padded 6 (micros.fmod 1000000) ++ "Z"

/-- The name of a level, five characters wide. -/
def levelText (l : LogLevel) : String :=
  String.ofList (List.replicate (5 - l.name.length) ' ') ++ l.name

/-- The line for a diagnostic. -/
def line (span : Option LogSpan) (withTopic : Bool) (micros : Int) (d : Diagnostic) : String :=
  let around := (span.map fun s ↦ s.text ++ ": ").getD ""
  let topic := if withTopic then d.topic.path ++ ": " else ""
  timeText micros ++ " " ++ levelText d.level ++ " " ++ around ++ topic ++ d.text ++ "\n"

/-- The span that stands in lines: the one that goes on, if it is shown. -/
def shownSpan (l : Logger) : Option LogSpan := l.span.filter l.filter.showsSpan

variable {m : Type → Type} [Monad m]

/-- Writes a diagnostic, if it is to be shown. -/
def report (p : Platform m) (l : Logger) (d : Diagnostic) : m Unit := do
  if l.filter.shows l.shownSpan d then
    let now ← p.time
    p.complain (line l.shownSpan false now d).toUTF8
    match l.file with
    | some file => do
      let _ ← p.files.write .append file (line l.shownSpan true now d).toUTF8
    | none => pure ()

/-- Writes lines to the standard error. -/
def complainAll (p : Platform m) : List String → m Unit
  | [] => pure ()
  | s :: ss => do
    p.complain (s ++ "\n").toUTF8
    complainAll p ss

/-- A logger for a level, refined by the environment. -/
def ofLevel (p : Platform m) (level : LogLevel) (file : Option Path) : m Logger := do
  let (filter, complaints) := LogFilter.ofLevel level ((← p.environment filterVariable).getD "")
  complainAll p complaints
  return { filter, file }

/-- Makes sure that there is a file to write to, with the directories that it stands in. -/
def openFile (p : Platform m) (file : Path) : m (Outcome Unit) := do
  match ← p.files.makeParents file with
  | .error e => return .error (.io e.message)
  | .ok () =>
    match ← p.files.write .append file .empty with
    | .error e => return .error (.io e.message)
    | .ok () => return .ok ()

/-- The logger that is configured. -/
def ofConfig (p : Platform m) (c : LoggingConfig) : m (Outcome Logger) := do
  match LogLevel.ofName c.level with
  | .error e => return .error e
  | .ok level =>
    if c.file.isEmpty then return .ok (← ofLevel p level none)
    else
      match ← openFile p ⟨c.file⟩ with
      | .error e => return .error e
      | .ok () => return .ok (← ofLevel p level (some ⟨c.file⟩))

/-- A logger for when the configured one cannot be had; it writes to the standard error only, and an
unknown level counts as `info`. -/
def fallback (p : Platform m) (c : LoggingConfig) : m Logger :=
  let level := match LogLevel.ofName c.level with
    | .ok level => level
    | .error _ => .info
  ofLevel p level none

end Logger

end MacroStream
