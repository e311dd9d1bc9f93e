import MacroStream.Files

/-!
# Files in memory

A tree of directories and files as a list of its nodes, each under the names that lead to it from
the root. Paths that do not start at the root start at the current directory. A walk along a path
needs a directory at every step but the last; a separator at the end needs one there, too.
-/

namespace MacroStream

/-- A directory or a file with its content. -/
inductive DiskNode where
  | directory
  | file (content : ByteArray)

/-- Files in memory. -/
structure Disk where
  /-- The nodes below the root. -/
  nodes : List (List String × DiskNode)
  /-- The names that lead to the current directory. -/
  current : List String

namespace Disk

/-- The longest name of a file, in bytes. -/
def nameLimit : Nat := 255

/-- Paths of this many bytes are too long. -/
def pathLimit : Nat := 4096

/-- The node under the given names; the root is a directory. -/
def node? (d : Disk) (names : List String) : Option DiskNode :=
  if names.isEmpty then some .directory else d.nodes.lookup names

/-- The disk with another node under the given names. -/
def put (d : Disk) (names : List String) (n : DiskNode) : Disk :=
  { d with nodes := (names, n) :: d.nodes.filter (·.1 != names) }

/-- The disk without the node under the given names. -/
def erase (d : Disk) (names : List String) : Disk :=
  { d with nodes := d.nodes.filter (·.1 != names) }

/-- The nodes below the given names. -/
def below (d : Disk) (names : List String) : List (List String) :=
  (d.nodes.map Prod.fst).filter fun n ↦ names.isPrefixOf n && names.length < n.length

/-- The disk with directories under the given names and above them. -/
def putDirectories (d : Disk) (names : List String) : Disk :=
  (List.range (names.length + 1)).foldl
    (fun d n ↦
      let above := names.take n
      if (d.node? above).isSome then d else d.put above .directory)
    d

/-- An empty directory under the given names, which is the current one. -/
def inDirectory (names : List String) : Disk :=
  { (⟨[], []⟩ : Disk).putDirectories names with current := names }

/-- One step of a walk. -/
def step (d : Disk) (here : List String) (name : String) : Except FileFault (List String) :=
  match d.node? here with
  | none => .error .notFound
  | some (.file _) => .error .notDirectory
  | some .directory =>
    if name = "." then .ok here
    else if name = ".." then .ok here.dropLast
    else if nameLimit < name.utf8ByteSize then .error .nameTooLong
    else .ok (here ++ [name])

/-- Where a path leads: the names, and whether only a directory may be there. -/
def walk (d : Disk) (p : Path) : Except FileFault (List String × Bool) :=
  let cs := p.text.toList
  if cs.isEmpty then .error .notFound
  else if cs.contains '\x00' then .error .zeroByte
  else if pathLimit ≤ p.text.utf8ByteSize then .error .nameTooLong
  else do
    let names := ((Path.pieces cs).filter fun n ↦ !n.isEmpty).map String.ofList
    let found ← names.foldlM d.step (if p.isAbsolute then [] else d.current)
    return (found, cs.getLast? = some '/')

/-- The node that a path leads to. -/
def find (d : Disk) (p : Path) : Except FileFault (List String × DiskNode) := do
  let (names, wantsDirectory) ← d.walk p
  match d.node? names with
  | none => .error .notFound
  | some (.file c) => if wantsDirectory then .error .notDirectory else .ok (names, .file c)
  | some .directory => .ok (names, .directory)

/-- What a path leads to. -/
def kind? (d : Disk) (p : Path) : Option FileKind :=
  match d.find p with
  | .ok (_, .directory) => some .directory
  | .ok (_, .file _) => some .file
  | .error _ => none

/-- The content of a file. -/
def read (d : Disk) (p : Path) : Except FileFault ByteArray := do
  match ← d.find p with
  | (_, .file c) => .ok c
  | (_, .directory) => .error .isDirectory

/-- The names in a directory, sorted. -/
def list (d : Disk) (p : Path) : Except FileFault (List String) := do
  match ← d.find p with
  | (_, .file _) => .error .notDirectory
  | (names, .directory) =>
    let inside := (d.below names).filter fun n ↦ n.length = names.length + 1
    return (inside.filterMap List.getLast?).mergeSort (· ≤ ·)

/-- The disk after a write. -/
def write (d : Disk) (mode : WriteMode) (p : Path) (content : ByteArray) :
    Except FileFault Disk := do
  let (names, wantsDirectory) ← d.walk p
  match d.node? names with
  | some .directory => .error .isDirectory
  | some (.file old) =>
    if wantsDirectory then .error .notDirectory
    else
      return d.put names (.file (if mode = .append then old ++ content else content))
  | none =>
    if wantsDirectory then .error .isDirectory
    else
      match d.node? names.dropLast with
      | some .directory => return d.put names (.file content)
      | some (.file _) => .error .notDirectory
      | none => .error .notFound

/-- The disk with a new directory. -/
def makeDirectory (d : Disk) (p : Path) : Except FileFault Disk := do
  let (names, _) ← d.walk p
  match d.node? names with
  | some _ => .error .alreadyExists
  | none =>
    match d.node? names.dropLast with
    | some .directory => return d.put names .directory
    | some (.file _) => .error .notDirectory
    | none => .error .notFound

/-- The disk without a file or an empty directory. -/
def remove (d : Disk) (p : Path) : Except FileFault Disk := do
  let (names, n) ← d.find p
  match n with
  | .file _ => return d.erase names
  | .directory => if (d.below names).isEmpty then return d.erase names else .error .notEmpty

/-- The disk in which a file is found under another path. -/
def rename (d : Disk) (p q : Path) : Except FileFault Disk := do
  let (source, n) ← d.find p
  let (target, _) ← d.walk q
  match n, d.node? target with
  | .file _, some .directory => .error .isDirectory
  | .directory, some (.file _) => .error .notDirectory
  | n, _ =>
    if (d.node? target.dropLast).isNone then .error .notFound
    else
      let moved := (d.nodes.filter fun (names, _) ↦ source.isPrefixOf names).map
        fun (names, n) ↦ (target ++ names.drop source.length, n)
      let kept := d.nodes.filter fun (names, _) ↦ !source.isPrefixOf names && names != target
      return { d with nodes := (target, n) :: moved.filter (·.1 != target) ++ kept }

/-- Runs an operation that changes the disk. -/
def update {m : Type → Type} [Monad m] [MonadStateOf Disk m]
    (f : Disk → Except FileFault Disk) : m (Except FileFault Unit) := do
  match f (← getThe Disk) with
  | .ok d =>
    set d
    return .ok ()
  | .error e => return .error e

/-- The operations on the disk that a monad carries. -/
def fileSystem {m : Type → Type} [Monad m] [MonadStateOf Disk m] : FileSystem m where
  kind? p := return (← getThe Disk).kind? p
  read p := return (← getThe Disk).read p
  list p := return (← getThe Disk).list p
  write mode p content := update (·.write mode p content)
  makeDirectory p := update (·.makeDirectory p)
  remove p := update (·.remove p)
  rename p q := update (·.rename p q)

end Disk

end MacroStream
