import MacroStream.CommandLine
import Std.Time.DateTime.Timestamp

/-!
# The program

Runs a macro from a file on the real file system, with the real standard streams.
-/

namespace MacroStream.Program

/-- The cause of a failed operation. -/
def faultOf : IO.Error → FileFault
  | .noFileOrDirectory .. => .notFound
  | .alreadyExists .. => .alreadyExists
  | .permissionDenied .. => .denied
  | .inappropriateType _ _ details =>
    if details = "Is a directory" then .isDirectory else .notDirectory
  | .unsatisfiedConstraints .. => .notEmpty
  | e => .other (toString e)

/-- Does something that may fail. -/
def guarded {α : Type} (x : IO α) : IO (Except FileFault α) := do
  try return .ok (← x) catch e => return .error (faultOf e)

/-- What a path leads to. -/
def kind? (p : Path) : IO (Option FileKind) := do
  try
    let found ← IO.FS.realPath p.text
    let data ← found.metadata
    return some <| match data.type with
      | .file => .file
      | .dir => .directory
      | _ => .special
  catch _ => return none

/-- Writes to a file. -/
def write (mode : WriteMode) (p : Path) (content : ByteArray) : IO Unit := do
  let mode : IO.FS.Mode := match mode with
    | .truncate => .write
    | .append => .append
  let file ← IO.FS.Handle.mk p.text mode
  file.write content

/-- Removes a file or an empty directory. -/
def remove (p : Path) : IO Unit := do
  match ← kind? p with
  | some .directory => IO.FS.removeDir p.text
  | _ => IO.FS.removeFile p.text

/-- The names in a directory. -/
def list (p : Path) : IO (List String) := do
  let directory ← IO.FS.realPath p.text
  return (← directory.readDir).toList.map fun e ↦ e.fileName

/-- The real file system. -/
def files : FileSystem IO where
  kind? := kind?
  read p := guarded (IO.FS.readBinFile p.text)
  list p := guarded (list p)
  write mode p content := guarded (write mode p content)
  makeDirectory p := guarded (IO.FS.createDir p.text)
  remove p := guarded (remove p)
  rename p q := guarded (IO.FS.rename p.text q.text)

/-- The process around the engine. `held` is what scripts have written and is kept back, and `ended`
is the code that the program is to end with, if a script says so. -/
def platform (held : IO.Ref ByteArray) (ended : IO.Ref (Option Int)) : Platform IO where
  files
  report _ := pure ()
  print bytes := do (← IO.getStdout).write bytes
  printForScript bytes atOnce := do
    let all := (← held.get) ++ bytes
    if atOnce then
      held.set .empty
      let out ← IO.getStdout
      out.write all
      out.flush
    else held.set all
  complain bytes := do (← IO.getStderr).write bytes
  environment name := IO.getEnv name
  time := do return (← Std.Time.Timestamp.now).toNanosecondsSinceUnixEpoch.val.fdiv 1000
  clock := do return (← IO.monoNanosNow).toFloat / 1000000000
  exit code := do
    ended.set (some code)
    throw (IO.userError "ended by a script")

/-- Runs the program, and writes what was kept back. -/
def run (args : List String) : IO UInt32 := do
  let held ← IO.mkRef ByteArray.empty
  let ended ← IO.mkRef none
  let code ← try
      let good ← CommandLine.run (platform held ended) args
      pure (if good then 0 else 1)
    catch e =>
      match ← ended.get with
      | some code => pure (code.emod 256)
      | none => throw e
  let out ← IO.getStdout
  out.write (← held.get)
  out.flush
  return code.toNat.toUInt32

end MacroStream.Program

/-- Runs the macro that the arguments name. -/
def main (args : List String) : IO UInt32 := MacroStream.Program.run args
