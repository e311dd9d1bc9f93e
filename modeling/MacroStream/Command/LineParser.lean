import MacroStream.Command
import MacroStream.Error
import MacroStream.Text.Lines

/-!
# One command per line

A line is trimmed and then sorted into one of three kinds: blank lines and `//` comments are
skipped, a line that starts with `/` and holds more than the slash is a command, and anything else
is malformed. A whole text fails at its first malformed line; a single line never fails.

`CommandParser` is what the rest of the engine asks of a command grammar, `lineParser` the grammar
above.
-/

namespace MacroStream

/-- Turns macro text into commands. -/
structure CommandParser where
  /-- Reads a whole text, and refuses it at the first malformed line. -/
  parse : String → Outcome (List Command)
  /-- Reads one line; blank, comment and malformed lines give nothing. -/
  parseLine : String → Option Command

namespace LineParser

/-- What a line holds. -/
inductive LineKind where
  | skip
  | command (text : String)
  | invalid (text : String)
  deriving DecidableEq, Repr

/-- The kind of a line whose two ends hold no blanks. -/
def classifyTrimmed (cs : List Char) : LineKind :=
  match cs with
  | [] => .skip
  | '/' :: '/' :: _ => .skip
  | '/' :: _ :: _ => .command (String.ofList cs)
  | _ => .invalid (String.ofList cs)

/-- The kind of a line, judged by its trimmed text. -/
def classify (line : String) : LineKind :=
  classifyTrimmed (Text.trimBy Text.isBlank line.toList)

/-- The error for a malformed line. -/
def malformed (line : Nat) (text : String) : EngineError :=
  .parse line ("expected a /command, found `" ++ text ++ "`")

/-- The commands of `lines`, the first of which has the number `line`. -/
def parseLines (line : Nat) : List String → Outcome (List Command)
  | [] => .ok []
  | l :: ls =>
    match classify l with
    | .skip => parseLines (line + 1) ls
    | .command text => do
      let rest ← parseLines (line + 1) ls
      return ⟨text, line⟩ :: rest
    | .invalid text => .error (malformed line text)

/-- The commands of a text, with the numbers of their lines. -/
def parse (text : String) : Outcome (List Command) :=
  parseLines 1 (Text.splitLines text)

/-- The command of a line, if it holds one; its number is 1. -/
def parseLine (line : String) : Option Command :=
  match classify line with
  | .command text => some ⟨text, 1⟩
  | .skip | .invalid _ => none

end LineParser

/-- The grammar with one command per line. -/
def lineParser : CommandParser := ⟨LineParser.parse, LineParser.parseLine⟩

end MacroStream
