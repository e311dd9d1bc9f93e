import MacroStream.Error
import MacroStream.Files
import MacroStream.Store

/-!
# Finding modules

Scripts name modules; a resolver looks for them as files and among the stored macros. It follows a
list of strategies and takes the first that finds something. A name that ends in `.macro` is only
looked for among the stored macros, without this ending, and every other name is looked for there
last.

A module that is there but cannot be read is an error, and the strategies behind it are not asked.
-/

namespace MacroStream

/-- One way to look for a module. -/
inductive SearchStrategy where
  /-- The name is the path of a file, from the root. -/
  | absolutePath
  /-- The name is a file below a directory. -/
  | directory (dir : Path)
  /-- The name is that of a stored macro. -/
  | store
  deriving DecidableEq, Repr

/-- Where a module was found. -/
inductive ModuleOrigin where
  | file (p : Path)
  | storedMacro (name : String)
  deriving DecidableEq, Repr

/-- The text by which a script is told where a module comes from. -/
def ModuleOrigin.text : ModuleOrigin → String
  | file p => p.text
  | storedMacro name => name

/-- A module that was found. -/
structure FoundModule where
  /-- The name of the module in messages; a mark in front says what kind of name it is. -/
  chunkName : String
  source : ByteArray
  origin : ModuleOrigin

/-- The chunk name of a stored macro. -/
def macroChunkName (name : String) : String := "=macro[\"" ++ name ++ "\"]"

/-- The ending of names that mean stored macros only. -/
def macroEnding : String := ".macro"

/-- Whether a name can only mean a stored macro. -/
def namesMacro (name : String) : Bool := macroEnding.toList.isSuffixOf name.toList

/-- The name of the stored macro that a module name means: the name without its ending. -/
def macroName (name : String) : String :=
  if namesMacro name then
    String.ofList (name.toList.take (name.toList.length - macroEnding.toList.length))
  else name

/-- Looks modules up by strategies. -/
structure ModuleResolver where
  /-- The directories to search, in order. -/
  searchPaths : List Path
  /-- The stored macros, if there are any to be asked. -/
  store : Option StoredMacros

namespace ModuleResolver

/-- The strategies, in the order in which they are tried. -/
def strategies (r : ModuleResolver) : List SearchStrategy :=
  .absolutePath :: r.searchPaths.map .directory ++ (if r.store.isSome then [.store] else [])

/-- The files that a name may mean below a directory, in the order in which they are tried: the name
itself, with the ending of scripts, with dots as separators, and as a directory with an initial
file. -/
def candidates (dir : Path) (name : String) : List Path :=
  let dotted := name.map fun c ↦ if c = '.' then '/' else c
  [dir.join ⟨name⟩, dir.join ⟨name ++ ".lua"⟩, dir.join ⟨dotted ++ ".lua"⟩,
    (dir.join ⟨dotted⟩).join ⟨"init.lua"⟩]

/-- The stored macro that a name means. -/
def storedModule? (r : ModuleResolver) (name : String) : Option FoundModule := do
  let store ← r.store
  let key := macroName name
  let text ← store.get? key
  return ⟨macroChunkName key, text.toUTF8, .storedMacro key⟩

/-- What is said of a name that nothing was found for. -/
def notFoundMessage (r : ModuleResolver) (name : String) : String :=
  let files :=
    if r.searchPaths.isEmpty then
      "module '" ++ name ++ "' not found (no module search paths configured)"
    else
      "module '" ++ name ++ "' not found, paths searched:\n  " ++
        "\n  ".intercalate (r.searchPaths.map Path.text)
  if r.store.isSome then
    files ++ "\n  no stored macro named '" ++ macroName name ++ "'"
  else files

variable {m : Type → Type} [Monad m]

/-- The first path that leads to a file. -/
def firstFile? (fs : FileSystem m) : List Path → m (Option Path)
  | [] => return none
  | p :: ps => do if ← fs.isFile p then return some p else firstFile? fs ps

/-- The module in a file. -/
def fileModule (fs : FileSystem m) (p : Path) : m (Outcome FoundModule) := do
  match ← fs.read p with
  | .ok source => return .ok ⟨"@" ++ p.text, source, .file p⟩
  | .error e => return .error (.io e.message)

/-- The module in the first of some paths that leads to a file. -/
def firstModule? (fs : FileSystem m) (ps : List Path) : m (Outcome (Option FoundModule)) := do
  match ← firstFile? fs ps with
  | none => return .ok none
  | some p => return (← fileModule fs p).map some

/-- The files that a strategy tries for a name. -/
def filesOf (name : String) : SearchStrategy → List Path
  | .absolutePath => if (⟨name⟩ : Path).isAbsolute then [⟨name⟩] else []
  | .directory dir => candidates dir name
  | .store => []

/-- What one strategy finds. -/
def search (fs : FileSystem m) (r : ModuleResolver) (name : String) :
    SearchStrategy → m (Outcome (Option FoundModule))
  | .store => return .ok (r.storedModule? name)
  | s => if namesMacro name then return .ok none else firstModule? fs (filesOf name s)

/-- What the first successful of some strategies finds. -/
def searchAll (fs : FileSystem m) (r : ModuleResolver) (name : String) :
    List SearchStrategy → m (Outcome (Option FoundModule))
  | [] => return .ok none
  | s :: ss => do
    match ← search fs r name s with
    | .ok none => searchAll fs r name ss
    | found => return found

/-- The module that a name means, if there is one. -/
def resolve (fs : FileSystem m) (r : ModuleResolver) (name : String) :
    m (Outcome (Option FoundModule)) :=
  searchAll fs r name r.strategies

end ModuleResolver

end MacroStream
