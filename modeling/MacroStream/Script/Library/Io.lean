import MacroStream.Script.Library.Os

/-!
# Functions on files

An open file holds what was in the file when it was opened; what is written goes to the file at
once. The standard input is empty, and what is written to the standard output is kept back until it
is convenient.
-/

namespace MacroStream.Script.Library

open Action

/-- The open file that a value is. -/
def fileOf? (h : Heap) : Value → Option (Nat × OpenFile)
  | .userdata a =>
    match h.object? a with
    | some (.file f) => some (a, f)
    | _ => none
  | _ => none

/-- Argument `n` as a file, open or not. -/
def needAnyFile (args : Args) (n : Nat) : Action (Nat × OpenFile) := do
  match ← read fun h ↦ fileOf? h (arg args n) with
  | some f => return f
  | none => wrongType args n "FILE*"

/-- Argument `n` as an open file. -/
def needFile (args : Args) (n : Nat) : Action (Nat × OpenFile) := do
  let (a, f) ← needAnyFile args n
  if f.isOpen then return (a, f) else fail "attempt to use a closed file"

/-- A standard file. -/
def standardFile (a : Nat) (name : String) : Action (Nat × OpenFile) := do
  match ← read fun h ↦ fileOf? h (.userdata a) with
  | some (a, f) =>
    if f.isOpen then return (a, f) else fail ("default " ++ name ++ " file is closed")
  | none => fail ("default " ++ name ++ " file is closed")

/-- Stores the state of a file. -/
def putFile (a : Nat) (f : OpenFile) : Action Unit := update (·.setObject a (.file f))

/-! ### Opening and closing -/

/-- Whether a way to open a file is one that is known. -/
def isMode (mode : ByteArray) : Bool :=
  match mode.data.toList with
  | b :: rest =>
    (b = 114 || b = 119 || b = 97) &&
      (rest = [] || rest = [43] || rest = [98] || rest = [43, 98])
  | [] => false

/-- Opens a file. -/
def openFile (path mode : ByteArray) : Action (Except FileFault Value) := do
  let kind := byteAt' mode
  let both := mode.data.toList.contains 43
  let make (content : ByteArray) : Action (Except FileFault Value) := do
    let position := if kind = 97 then content.size else 0
    return .ok (← modifyGet (·.newObject (.file ⟨path, content, position, kind = 114 || both,
      kind ≠ 114 || both, kind = 97, true, none⟩)))
  if kind = 114 then
    match ← ask (.readFile path) with
    | .ok content => make content
    | .error .isDirectory => make .empty
    | .error e => return .error e
  else if kind = 119 then
    match ← ask (.writeFile .truncate path .empty) with
    | .ok () => make .empty
    | .error e => return .error e
  else
    match ← ask (.writeFile .append path .empty) with
    | .ok () =>
      match ← ask (.readFile path) with
      | .ok content => make content
      | .error e => return .error e
    | .error e => return .error e
where
  /-- The first byte of a mode. -/
  byteAt' (mode : ByteArray) : UInt8 := mode.data.toList.headD 114

/-- Opens a file, or gives up. -/
def openOrFail (path mode : ByteArray) : Action Value := do
  match ← openFile path mode with
  | .ok f => return f
  | .error e =>
    let reason := (e.system?.map Prod.fst).getD e.message
    failBytes ("cannot open file '".toUTF8 ++ path ++ ("' (" ++ reason ++ ")").toUTF8)

/-- Closes a file; the standard streams stay open. -/
def closeFile (a : Nat) (f : OpenFile) : Action (List Value) := do
  if f.stream.isSome then return [.nil, textValue "cannot close standard file"]
  else
    putFile a { f with isOpen := false }
    return [.bool true]

/-! ### Writing -/

/-- Content with bytes written over it at a position. -/
def overwrite (content : ByteArray) (position : Nat) (s : ByteArray) : ByteArray :=
  let gap : ByteArray := ⟨(List.replicate (position - content.size) (0 : UInt8)).toArray⟩
  content.extract 0 position ++ gap ++ s ++ content.extract (position + s.size) content.size

/-- Writes bytes to a file. -/
def writeBytes (a : Nat) (s : ByteArray) : Action (Except FileFault Unit) := do
  match ← read fun h ↦ fileOf? h (.userdata a) with
  | none => return .ok ()
  | some (_, f) =>
    match f.stream with
    | some 2 => do
      ask (.complain s)
      return .ok ()
    | some _ => do
      ask (.print s false)
      return .ok ()
    | none =>
      if !f.writes then return .error (.other "Bad file descriptor")
      else
        let at' := if f.appends then f.content.size else f.position
        let content := overwrite f.content at' s
        putFile a { f with content, position := at' + s.size }
        if f.path.isEmpty then return .ok ()
        else if f.appends then ask (.writeFile .append f.path s)
        else ask (.writeFile .truncate f.path content)

/-- Writes arguments from number `n` on. -/
def writeAll (a : Nat) (args : Args) : Nat → List Value → Action (List Value)
  | _, [] => return [.userdata a]
  | n, _ :: rest => do
    let s ← needBytes args n
    match ← writeBytes a s with
    | .ok () => writeAll a args (n + 1) rest
    | .error e => return fileAnswer none (.error e)

/-! ### Reading -/

/-- What is read at once. -/
inductive ReadFormat where
  | line (keepEnd : Bool)
  | all
  | number
  | bytes (n : Nat)

/-- A format given by an argument. -/
def readFormat (args : Args) (n : Nat) : Action ReadFormat :=
  match arg args n with
  | .int k => return .bytes k.toNatClampNeg
  | .float _ => do return .bytes (← needInt args n).toNatClampNeg
  | _ => do
    let s ← needBytes args n
    let letters := match s.data.toList with
      | 42 :: rest => rest
      | all => all
    match letters.head?.map fun b ↦ Char.ofNat b.toNat with
    | some 'n' => return .number
    | some 'l' => return .line false
    | some 'L' => return .line true
    | some 'a' => return .all
    | _ => badArgument n "invalid format"

/-- The bytes of the longest numeral at the front. -/
def numeralFront (bs : List UInt8) : List UInt8 :=
  (bs.takeWhile fun b ↦ Num.isHexDigit b || "+-.xXpP".toUTF8.data.toList.contains b).take 200

/-- Reads from a file: a value, and the new position. -/
def readOne (f : OpenFile) (format : ReadFormat) : Value × Nat :=
  let rest := (f.content.extract f.position f.content.size).data.toList
  match format with
  | .all => (.str ⟨rest.toArray⟩, f.content.size)
  | .bytes n =>
    if rest.isEmpty then (if n = 0 then .nil else .nil, f.position)
    else (.str ⟨(rest.take n).toArray⟩, min f.content.size (f.position + n))
  | .line keepEnd =>
    if rest.isEmpty then (.nil, f.position)
    else
      let line := rest.takeWhile (· ≠ 10)
      let ended := line.length < rest.length
      let shown := if keepEnd && ended then line ++ [10] else line
      (.str ⟨shown.toArray⟩, f.position + line.length + (if ended then 1 else 0))
  | .number =>
    let space := rest.takeWhile Num.isSpace
    let text := numeralFront (rest.drop space.length)
    match Num.read? ⟨text.toArray⟩ with
    | some n => (.ofNum n, f.position + space.length + text.length)
    | none => (.nil, f.position + space.length + text.length)

/-- Reads by several formats, up to the first that nothing is found for. -/
def readAll (a : Nat) : List ReadFormat → Action (List Value)
  | [] => return []
  | format :: rest => do
    match ← read fun h ↦ fileOf? h (.userdata a) with
    | none => return [.nil]
    | some (_, f) =>
      let (v, position) := readOne f format
      putFile a { f with position }
      if v.isNil then return [.nil] else return v :: (← readAll a rest)

/-- The formats given by arguments from number `n` on; lines if there are none. -/
def readFormats (args : Args) (n : Nat) : Action (List ReadFormat) := do
  if args.length < n then return [.line false]
  else (List.range (args.length + 1 - n)).mapM fun i ↦ readFormat args (n + i)

/-- Reads from a file that may be read. -/
def readFile (a : Nat) (f : OpenFile) (args : Args) (n : Nat) : Action (List Value) := do
  let formats ← readFormats args n
  if !f.reads then return [.nil, textValue "Bad file descriptor", .int 9]
  else readAll a formats

/-- The next line of an iterator over a file. -/
def stepLines (a : Nat) (formats : List Value) (closes : Bool) : Action (List Value) := do
  match ← read fun h ↦ fileOf? h (.userdata a) with
  | none => fail "file is already closed"
  | some (_, f) =>
    if !f.isOpen then fail "file is already closed"
    else
      let vs ← readFile a f formats 1
      if (vs.headD .nil).isNil && closes then
        let f ← read fun h ↦ fileOf? h (.userdata a)
        match f with
        | some (_, f) => putFile a { f with isOpen := false }
        | none => pure ()
      return vs

/-- An iterator over a file. -/
def linesOf (a : Nat) (formats : List Value) (closes : Bool) : Action Value :=
  modifyGet (·.newFunction (.lines a formats closes))

/-! ### The functions -/

/-- Changes or answers a standard file. -/
def standard (args : Args) (mode : String) (get : Registry → Nat) (put : Nat → Registry → Registry) :
    Action (List Value) := do
  if !isAbsent args 1 then
    let a ← match arg args 1 with
      | .str path => do
        match ← openOrFail path mode.toUTF8 with
        | .userdata a => pure a
        | _ => pure 0
      | _ => do pure (← needAnyFile args 1).1
    update fun h ↦ { h with registry := put a h.registry }
  return [.userdata (get (← read Heap.registry))]

/-- Runs a function on files. -/
def io (f : IoFunction) (args : Args) : Action (List Value) :=
  match f with
  | .close => do
    if args.isEmpty then
      let (a, f) ← standardFile (← read fun h ↦ h.registry.output) "output"
      closeFile a f
    else
      let (a, f) ← needFile args 1
      closeFile a f
  | .flush => do
    let (a, _) ← standardFile (← read fun h ↦ h.registry.output) "output"
    return [.userdata a]
  | .input => standard args "r" Registry.input fun a r ↦ { r with input := a }
  | .output => standard args "w" Registry.output fun a r ↦ { r with output := a }
  | .lines => do
    if isAbsent args 1 then
      let (a, _) ← standardFile (← read fun h ↦ h.registry.input) "input"
      return [← linesOf a (args.drop 1) false]
    else
      let path ← needBytes args 1
      match ← openOrFail path "r".toUTF8 with
      | .userdata a => return [← linesOf a (args.drop 1) true, .nil, .nil, .userdata a]
      | _ => return []
  | .open => do
    let path ← needBytes args 1
    let mode ← optBytes args 2 "r".toUTF8
    if !isMode mode then badArgument 2 "invalid mode"
    match ← openFile path mode with
    | .ok f => return [f]
    | .error e => return fileAnswer (some path) (.error e)
  | .popen => fail "'popen' not supported"
  | .read => do
    let (a, f) ← standardFile (← read fun h ↦ h.registry.input) "input"
    readFile a f args 1
  | .tmpfile => do
    return [← modifyGet (·.newObject
      (.file ⟨.empty, .empty, 0, true, true, false, true, none⟩))]
  | .type => do
    let v ← needAny args 1
    match ← read fun h ↦ fileOf? h v with
    | some (_, f) => return [textValue (if f.isOpen then "file" else "closed file")]
    | none => return [.nil]
  | .write => do
    let (a, _) ← standardFile (← read fun h ↦ h.registry.output) "output"
    writeAll a args 1 args

/-- Runs a method of files. -/
def file (f : FileMethod) (args : Args) : Action (List Value) :=
  match f with
  | .close => do
    let (a, f) ← needFile args 1
    closeFile a f
  | .flush => do
    let _ ← needFile args 1
    return [arg args 1]
  | .lines => do
    let (a, _) ← needFile args 1
    return [← linesOf a (args.drop 1) false]
  | .read => do
    let (a, f) ← needFile args 1
    readFile a f args 2
  | .seek => do
    let (a, f) ← needFile args 1
    let whence ← needOption args 2 (some "cur") ["set", "cur", "end"]
    let offset ← optInt args 3 0
    let base : Nat := if whence = 0 then 0 else if whence = 1 then f.position else f.content.size
    let target := (base : Int) + offset.toInt
    if target < 0 then return [.nil, textValue "Invalid argument", .int 22]
    else
      putFile a { f with position := target.toNat }
      return [.int (Int64.ofInt target)]
  | .setvbuf => do
    let _ ← needFile args 1
    return [.bool true]
  | .write => do
    let (a, _) ← needFile args 1
    writeAll a args 2 (args.drop 1)
  | .gc => do
    let (a, f) ← needAnyFile args 1
    if f.isOpen then putFile a { f with isOpen := false }
    return []
  | .tostring => do
    let _ ← needAnyFile args 1
    return [.str (← read (·.plainText (arg args 1)))]

end MacroStream.Script.Library
