import MacroStream.Script.Library.Base
import MacroStream.Text.Replace

/-!
# Modules

`require` asks the functions in `package.searchers` in turn for a loader. There are searchers for
loaders that scripts registered, for files along `package.path`, and for libraries that are not
scripts, of which none is ever found; a host may put a searcher of its own in their place, which
looks modules up by a `ModuleResolver`.
-/

namespace MacroStream.Script.Library

open Action

/-- The usual places of scripts. -/
def defaultPath : String :=
  "/usr/local/share/lua/5.4/?.lua;/usr/local/share/lua/5.4/?/init.lua;" ++
    "/usr/local/lib/lua/5.4/?.lua;/usr/local/lib/lua/5.4/?/init.lua;./?.lua;./?/init.lua"

/-- The usual places of libraries that are not scripts. -/
def defaultLibraryPath : String :=
  "/usr/local/lib/lua/5.4/?.so;/usr/local/lib/lua/5.4/loadall.so;./?.so"

/-- Bytes cut at every `separator`. -/
def splitBytes (separator : UInt8) : List UInt8 → List (List UInt8)
  | [] => [[]]
  | b :: bs =>
    match splitBytes separator bs with
    | [] => [[b]]
    | piece :: pieces =>
      if b = separator then [] :: piece :: pieces else (b :: piece) :: pieces

/-- Bytes with every `old` replaced by a piece. -/
def replaceByte (old : UInt8) (piece : List UInt8) (bs : List UInt8) : List UInt8 :=
  bs.flatMap fun b ↦ if b = old then piece else [b]

/-- Bytes with every occurrence of a piece that is not empty replaced. -/
def replacePiece (old new bs : List UInt8) : List UInt8 :=
  match old with
  | [] => bs
  | o :: os => Text.replaceList o os new bs

/-- The first of some files that can be read. -/
def firstReadable : List (List UInt8) → Action (Option ByteArray)
  | [] => return none
  | p :: ps => do
    match ← ask (.readFile ⟨p.toArray⟩) with
    | .ok _ => return some ⟨p.toArray⟩
    | .error _ => firstReadable ps

/-- The file of a module along a path of templates, or what is said when there is none. -/
def searchPath (name path separator directory : ByteArray) :
    Action (Except ByteArray ByteArray) := do
  let name := replacePiece separator.data.toList directory.data.toList name.data.toList
  let files := replaceByte 63 name path.data.toList
  match ← firstReadable ((splitBytes 59 files).filter fun p ↦ !p.isEmpty) with
  | some p => return .ok p
  | none =>
    return .error ("no file '".toUTF8 ++
      ⟨(replaceByte 59 "'\n\tno file '".toUTF8.data.toList files).toArray⟩ ++ "'".toUTF8)

/-- The file of a module along the path that a field of `package` holds. -/
def findFile (name : ByteArray) (field : String) : Action (Except ByteArray ByteArray) := do
  let package ← read fun h ↦ h.registry.package
  match (← getKey (.table package) (textValue field)).concatBytes? with
  | some path => searchPath name path ".".toUTF8 "/".toUTF8
  | none => fail ("'package." ++ field ++ "' must be a string")

/-- Asks searchers from number `i` on for a loader; `said` is what the earlier ones said. -/
def findLoader (name : ByteArray) (searchers : Nat) :
    Nat → Int64 → ByteArray → Action (Value × Value)
  | 0, _, said => failBytes ("module '".toUTF8 ++ name ++ "' not found:".toUTF8 ++ said)
  | fuel + 1, i, said => do
    let searcher ← read fun h ↦ (h.table searchers).getInt i
    if searcher.isNil then
      failBytes ("module '".toUTF8 ++ name ++ "' not found:".toUTF8 ++ said)
    else
      let vs ← callPlain searcher [.str name]
      let first := vs.headD .nil
      if first.isFunction then return (first, vs.getD 1 .nil)
      else
        match first.concatBytes? with
        | some s => findLoader name searchers fuel (i + 1) (said ++ "\n\t".toUTF8 ++ s)
        | none => findLoader name searchers fuel (i + 1) said

/-- The value of a module, which is loaded if it was not loaded before, and where it came from. -/
def require (args : Args) : Action (List Value) := do
  let name := Token.beforeZero (← needBytes args 1)
  let key : Value := .str name
  let loaded : Value := .table (← read fun h ↦ h.registry.loaded)
  let known ← getKey loaded key
  if known.isTruthy then return [known]
  else
    let package ← read fun h ↦ h.registry.package
    match ← getKey (.table package) (textValue "searchers") with
    | .table searchers => do
      let (loader, origin) ← findLoader name searchers 1000000 1 .empty
      let result := (← callPlain loader [key, origin]).headD .nil
      if !result.isNil then setKey loaded key result
      let value ← getKey loaded key
      if value.isNil then
        setKey loaded key (.bool true)
        return [.bool true, origin]
      else return [value, origin]
    | _ => fail "'package.searchers' must be a table"

/-- Looks for a loader that a script registered. -/
def searchPreload (args : Args) : Action (List Value) := do
  let name ← needBytes args 1
  let preload ← read fun h ↦ h.registry.preload
  let loader ← getKey (.table preload) (.str name)
  if loader.isNil then
    return [.str ("no field package.preload['".toUTF8 ++ name ++ "']".toUTF8)]
  else return [loader, textValue ":preload:"]

/-- Looks for a file along `package.path`. -/
def searchScript (args : Args) : Action (List Value) := do
  let name ← needBytes args 1
  match ← findFile name "path" with
  | .error said => return [.str said]
  | .ok path =>
    match ← loadFile path "bt".toUTF8 (← globals) with
    | .ok f => return [f, .str path]
    | .error m =>
      failBytes ("error loading module '".toUTF8 ++ name ++ "' from file '".toUTF8 ++ path ++
        "':\n\t".toUTF8 ++ m)

/-- Looks for a library that is not a script; one that is there cannot be loaded. -/
def searchLibrary (name : ByteArray) : Action (List Value) := do
  match ← findFile name "cpath" with
  | .error said => return [.str said]
  | .ok path =>
    failBytes ("error loading module '".toUTF8 ++ name ++ "' from file '".toUTF8 ++ path ++
      "':\n\t".toUTF8 ++ path ++ ": invalid ELF header".toUTF8)

/-- Runs a function on modules. -/
def package (f : PackageFunction) (args : Args) : Action (List Value) :=
  match f with
  | .loadlib => do
    let path ← needBytes args 1
    let _ ← needBytes args 2
    return [.nil, .str (path ++ ": cannot open shared object file: No such file or directory".toUTF8),
      textValue "open"]
  | .searchpath => do
    let name ← needBytes args 1
    let path ← needBytes args 2
    let separator ← optBytes args 3 ".".toUTF8
    let directory ← optBytes args 4 "/".toUTF8
    match ← searchPath name path separator directory with
    | .ok p => return [.str p]
    | .error said => return [.nil, .str said]
  | .searchPreload => searchPreload args
  | .searchScript => searchScript args
  | .searchLibrary => do searchLibrary (← needBytes args 1)
  | .searchLibraryRoot => do
    let name ← needBytes args 1
    let root := name.data.toList.takeWhile fun b ↦ b ≠ 46
    if root.length = name.size then return [] else searchLibrary ⟨root.toArray⟩

/-! ### The host's searcher -/

/-- Throws an error of the host. -/
def throwHost {α : Type} (message : String) : Action α := do
  throw (← modifyGet (·.newObject (.hostError message)))

/-- Why bytes are no text. -/
def brokenText (s : ByteArray) : String :=
  match Text.firstBroken? 0 s.data.toList with
  | some (i, some n) =>
    "invalid utf-8 sequence of " ++ Nat.repr n ++ " bytes from index " ++ Nat.repr i
  | some (i, none) => "incomplete utf-8 byte sequence from index " ++ Nat.repr i
  | none => ""

/-- The text of a string that the host is given as its first argument. -/
def hostText (v : Value) : Action String :=
  match v.concatBytes? with
  | some s =>
    match Text.decode? s with
    | some t => return t
    | none =>
      throwHost ("bad argument #1: error converting Lua string to String (" ++ brokenText s ++ ")")
  | none =>
    throwHost ("bad argument #1: error converting Lua " ++ v.typeName ++
      " to String (expected string or number)")

/-- Looks a module up by the host's resolver: its loader and where it comes from, or a text that says
that there is none. -/
def searchModule (args : Args) : Action (List Value) := do
  let name ← hostText (arg args 1)
  match ← ask (.resolve name) with
  | .error e => throwHost e.message
  | .ok (.error said) => return [textValue said, .nil]
  | .ok (.ok found) => do
    let source := found.chunkName.toUTF8
    match source.data.toList.findIdx? (· = 0) with
    | some i =>
      throwHost ("runtime error: invalid name: nul byte found in provided data at position: " ++
        Nat.repr i)
    | none =>
      match ← compile source found.source "bt".toUTF8 (← globals) (← callDepth) with
      | .ok f => return [f, textValue found.origin.text]
      | .error m => throwHost ("syntax error: " ++ Text.decodeLossy m)

end MacroStream.Script.Library
