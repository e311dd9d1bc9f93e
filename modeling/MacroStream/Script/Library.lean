import MacroStream.Script.Exchange
import MacroStream.Script.Library.Coroutine
import MacroStream.Script.Library.Debug
import MacroStream.Script.Library.Format
import MacroStream.Script.Library.Io
import MacroStream.Script.Library.Math
import MacroStream.Script.Library.Os
import MacroStream.Script.Library.Package
import MacroStream.Script.Library.Strings
import MacroStream.Script.Library.Table
import MacroStream.Script.Library.Utf8

/-!
# Functions that are not written in the script language

What happens when a function of a library, or one that the host made, is called.
-/

namespace MacroStream.Script.Library

open Action

/-- Runs a library function. -/
def runPrimitive (f : Primitive) (args : Args) : Action (List Value) :=
  match f with
  | .base .require => require args
  | .base f => base f args
  | .coroutine f => coroutine f args
  | .table f => table f args
  | .string f => string f args
  | .utf8 f => utf8 f args
  | .math f => math f args
  | .os f => os f args
  | .io f => io f args
  | .file f => file f args
  | .package f => package f args
  | .debug f => debug f args

/-- Runs an operation of a capability: the arguments cross to the host, and the answer crosses back.
Nothing is asked of the host when an argument cannot cross. -/
def invoke (capability : Nat) (operation : String) (args : Args) : Action (List Value) := do
  match ← read (·.toJsonList args) with
  | .error f => throwHost f.message
  | .ok js =>
    match ← ask (.invoke capability operation js) with
    | .error e => throwHost e.message
    | .ok j => return [← modifyGet (·.ofJson j)]

/-- Runs a function that has a state and is not a script's. -/
def runObject (f : FunctionObject) (args : Args) : Action (List Value) :=
  match f with
  | .script .. => return []
  | .capability index operation => invoke index operation args
  | .moduleSearcher => searchModule args
  | .resumer t => resumeHidden t args
  | .matches subject pattern position => stepMatches subject pattern position
  | .lines file formats closes => stepLines file formats closes
  | .refusesLibraries => throwHost "package.loadlib is disabled in safe mode"
  | .skipsLibraries => return [textValue "\n\tcan't load C modules in safe mode"]

end MacroStream.Script.Library
