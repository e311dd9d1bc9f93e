import MacroStream.Path
import MacroStream.Text.Utf8

/-!
# Access to files

What the engine asks of a file system, as a record of operations in an arbitrary monad, so that the
same code runs on a real directory and on one that is kept in memory (`Files.Disk`). An operation
that fails says why by a `FileFault`; nothing is assumed of how the operations hang together.
-/

namespace MacroStream

/-- Why an operation on files failed. -/
inductive FileFault where
  | notFound
  | denied
  | alreadyExists
  | notDirectory
  | isDirectory
  | notEmpty
  | nameTooLong
  /-- A path with a zero byte in it. -/
  | zeroByte
  /-- Text was wanted and the bytes are no text. -/
  | notText
  /-- A cause that the system describes by itself. -/
  | other (text : String)
  deriving DecidableEq, Repr

namespace FileFault

/-- The system's text and number for a cause that it knows. -/
def system? : FileFault → Option (String × Nat)
  | notFound => some ("No such file or directory", 2)
  | denied => some ("Permission denied", 13)
  | alreadyExists => some ("File exists", 17)
  | notDirectory => some ("Not a directory", 20)
  | isDirectory => some ("Is a directory", 21)
  | notEmpty => some ("Directory not empty", 39)
  | nameTooLong => some ("File name too long", 36)
  | zeroByte | notText | other _ => none

/-- The text shown for a fault. -/
def message (f : FileFault) : String :=
  match f.system? with
  | some (text, number) => text ++ " (os error " ++ Nat.repr number ++ ")"
  | none =>
    match f with
    | zeroByte => "file name contained an unexpected NUL byte"
    | notText => "stream did not contain valid UTF-8"
    | other text => text
    | _ => ""

end FileFault

/-- What a path leads to. -/
inductive FileKind where
  | file
  | directory
  /-- Neither a regular file nor a directory. -/
  | special
  deriving DecidableEq, Repr

/-- Whether a write starts a file anew or goes on at its end. -/
inductive WriteMode where
  | truncate
  | append
  deriving DecidableEq, Repr

/-- Operations on files in the monad `m`. -/
structure FileSystem (m : Type → Type) where
  /-- What a path leads to, if anything. -/
  kind? : Path → m (Option FileKind)
  read : Path → m (Except FileFault ByteArray)
  /-- The names in a directory, without the entries at which the listing fails. -/
  list : Path → m (Except FileFault (List String))
  /-- Writes to a file, which is made if it is missing. -/
  write : WriteMode → Path → ByteArray → m (Except FileFault Unit)
  makeDirectory : Path → m (Except FileFault Unit)
  remove : Path → m (Except FileFault Unit)
  rename : Path → Path → m (Except FileFault Unit)

namespace FileSystem

variable {m : Type → Type} [Monad m]

/-- Whether a path leads to a regular file. -/
def isFile (fs : FileSystem m) (p : Path) : m Bool := return (← fs.kind? p) == some .file

/-- Whether a path leads to a directory. -/
def isDirectory (fs : FileSystem m) (p : Path) : m Bool := return (← fs.kind? p) == some .directory

/-- The text of a file. -/
def readText (fs : FileSystem m) (p : Path) : m (Except FileFault String) := do
  match ← fs.read p with
  | .error e => return .error e
  | .ok bytes =>
    match Text.decode? bytes with
    | some s => return .ok s
    | none => return .error .notText

/-- Makes one directory; one that is there already is as good. -/
def ensureDirectory (fs : FileSystem m) (p : Path) : m (Except FileFault Unit) := do
  match ← fs.makeDirectory p with
  | .ok () => return .ok ()
  | .error e => if ← fs.isDirectory p then return .ok () else return .error e

/-- Makes a directory and those above it, going up at most `fuel` times. -/
def makeDirectories (fs : FileSystem m) : Nat → Path → m (Except FileFault Unit)
  | 0, _ => return .error .nameTooLong
  | fuel + 1, p => do
    if p.text.isEmpty then return .ok ()
    match ← fs.makeDirectory p with
    | .ok () => return .ok ()
    | .error .notFound =>
      match p.parent? with
      | none => return .error (.other "failed to create whole tree")
      | some parent =>
        match ← makeDirectories fs fuel parent with
        | .error e => return .error e
        | .ok () => fs.ensureDirectory p
    | .error e => if ← fs.isDirectory p then return .ok () else return .error e

/-- Makes the directories in which a file is to stand. -/
def makeParents (fs : FileSystem m) (p : Path) : m (Except FileFault Unit) :=
  match p.parent? with
  | none => return .ok ()
  | some parent => fs.makeDirectories (p.text.length + 1) parent

end FileSystem

end MacroStream
