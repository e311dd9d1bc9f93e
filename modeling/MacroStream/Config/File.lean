import MacroStream.Config.Decode
import MacroStream.Files
import MacroStream.Toml.Reader

/-!
# Settings files

The settings that a file describes. Unknown keys are ignored; a malformed file and a setting of the
wrong kind are refused alike.
-/

namespace MacroStream.Config

/-- The error for a file that does not describe settings. -/
def refused (reason : String) : EngineError := .validation ("config parse error: " ++ reason)

/-- The settings in the text of a file. -/
def ofText (s : String) : Outcome Config :=
  match Toml.ofText? s with
  | none => .error (refused "malformed text")
  | some v =>
    match Config.ofJson .ignored v with
    | .ok c => .ok c
    | .error e => .error (refused e.message)

/-- The settings in a file. -/
def load {m : Type → Type} [Monad m] (fs : FileSystem m) (p : Path) : m (Outcome Config) := do
  match ← fs.readText p with
  | .ok s => return ofText s
  | .error e => return .error (.io e.message)

end MacroStream.Config
