import MacroStream.Script.Library.Arguments

/-!
# Looking into running functions

Levels count the functions that have not returned, from the innermost one, which is the library
function that looks; the function that called it has level 1.
-/

namespace MacroStream.Script.Library

open Action

/-- The thread that is looked at, and how many arguments say so. -/
def targetThread (args : Args) : Action (Nat × Nat) :=
  match arg args 1 with
  | .thread t => return (t, 1)
  | _ => do return (← read Heap.running, 0)

/-- Looks at a function of a thread. -/
def viewOf (thread level : Nat) : Action (Option FrameView) := fun k h ↦
  (h, .view thread level k)

/-- A function as it is looked at when it is not running. -/
def restingView (f : Value) (h : Heap) : FrameView :=
  let info := match f with
    | .function a =>
      match h.function? a with
      | some (.script body _) => some body.info
      | _ => none
    | _ => none
  { function := f, info, line := 0, locals := [], varargs := [], name := none, isTail := false }

/-- How the kind of a function is called. -/
def kindOf (v : FrameView) : String :=
  match v.info with
  | none => "C"
  | some info => if info.lineDefined = 0 then "main" else "Lua"

/-- The fields that describe a function; `running` says whether it has a current line. -/
def infoFields (v : FrameView) (running : Bool) (letter : Char) : List (String × Value) :=
  let int (n : Nat) : Value := .int (Int64.ofNat n)
  match letter with
  | 'S' =>
    match v.info with
    | some info =>
      [("source", .str info.source), ("short_src", .str (chunkId info.source)),
        ("what", textValue (kindOf v)), ("linedefined", int info.lineDefined),
        ("lastlinedefined",
          if info.lineDefined = 0 then .int (-1) else int info.lastLine)]
    | none =>
      [("source", textValue "=[C]"), ("short_src", textValue "[C]"), ("what", textValue "C"),
        ("linedefined", .int (-1)), ("lastlinedefined", .int (-1))]
  | 'l' =>
    [("currentline", if running && v.info.isSome then int v.line else .int (-1))]
  | 'u' =>
    match v.info with
    | some info =>
      [("nups", int info.captures.length), ("nparams", int info.params.length),
        ("isvararg", .bool info.isVararg)]
    | none => [("nups", int 0), ("nparams", int 0), ("isvararg", .bool true)]
  | 'n' =>
    match v.name with
    | some (kind, name) => [("name", .str name), ("namewhat", textValue kind)]
    | none => [("namewhat", textValue "")]
  | 't' => [("istailcall", .bool v.isTail)]
  | 'f' => [("func", v.function)]
  | _ => []

/-- Describes a function, given as such or by its level. -/
def getinfo (args : Args) : Action (List Value) := do
  let (thread, skip) ← targetThread args
  let what ← optBytes args (skip + 2) "flnSrtu".toUTF8
  let letters := what.data.toList.map fun b ↦ Char.ofNat b.toNat
  if letters.contains '>' then badArgument (skip + 2) "invalid option '>'"
  let subject := arg args (skip + 1)
  let found ← if subject.isFunction then do
      pure (some (← read (restingView subject), false))
    else do
      let level ← needInt args (skip + 1)
      if level < 0 then pure none
      else pure ((← viewOf thread level.toNatClampNeg).map fun v ↦ (v, true))
  match found with
  | none => return [.nil]
  | some (v, running) =>
    if letters.any fun c ↦ !"SlnrutLf".toList.contains c then
      badArgument (skip + 2) "invalid option"
    let fields := letters.flatMap (infoFields v running)
    return [.table (← modifyGet (·.newTableOf fields))]

/-- The variable with a number in a function, with its address if it has one. -/
def localAt (v : FrameView) (n : Int64) : Option (ByteArray × Option Nat × Value) :=
  if 0 < n then
    (v.locals[n.toNatClampNeg - 1]?).map fun (name, a) ↦ (name, some a, .nil)
  else if n < 0 then
    (v.varargs[(-n).toNatClampNeg - 1]?).map fun x ↦ ("(vararg)".toUTF8, none, x)
  else none

/-- The name and the value of a local variable. -/
def getlocal (args : Args) : Action (List Value) := do
  let (thread, skip) ← targetThread args
  let n ← needInt args (skip + 2)
  let subject := arg args (skip + 1)
  if subject.isFunction then
    let v ← read (restingView subject)
    match (v.info.map FunctionInfo.params).bind fun ps ↦
        if 0 < n then ps[n.toNatClampNeg - 1]? else none with
    | some name => return [.str name]
    | none => return [.nil]
  else
    let level ← needInt args (skip + 1)
    let found ← if level < 0 then pure none else viewOf thread level.toNatClampNeg
    match found with
    | none => badArgument (skip + 1) "level out of range"
    | some v =>
      match localAt v n with
      | some (name, some a, _) => return [.str name, ← read (·.cell a)]
      | some (name, none, x) => return [.str name, x]
      | none => return [.nil]

/-- Gives a local variable a value. -/
def setlocal (args : Args) : Action (List Value) := do
  let (thread, skip) ← targetThread args
  let level ← needInt args (skip + 1)
  let n ← needInt args (skip + 2)
  let x ← needAny args (skip + 3)
  let found ← if level < 0 then pure none else viewOf thread level.toNatClampNeg
  match found with
  | none => badArgument (skip + 1) "level out of range"
  | some v =>
    match localAt v n with
    | some (name, some a, _) => do
      update (·.setCell a x)
      return [.str name]
    | some (name, none, _) => return [.str name]
    | none => return [.nil]

/-- The captured variable with a number in a function: its name and its address. -/
def captureAt (f : Value) (n : Int64) (h : Heap) : Option (ByteArray × Nat) :=
  match f with
  | .function a =>
    match h.function? a with
    | some (.script body captured) =>
      if 0 < n then do
        let (name, _) ← body.info.captures[n.toNatClampNeg - 1]?
        let cell ← captured[n.toNatClampNeg - 1]?
        return (name, cell)
      else none
    | _ => none
  | _ => none

/-- Lets the captured variable at a place in a function be the one at an address. -/
def joinCapture (a place cell : Nat) (h : Heap) : Heap :=
  match h.function? a with
  | some (.script body captured) =>
    let joined : FunctionObject := .script body (captured.setIfInBounds place cell)
    { h with functions := h.functions.setIfInBounds a joined }
  | _ => h

/-- How a function is called in a list of functions that have not returned. -/
def functionText (v : FrameView) : ByteArray :=
  match v.function, v.name, v.info with
  | .primitive p, _, _ => ("function '" ++ p.qualifiedName ++ "'").toUTF8
  | _, some (kind, name), _ => (kind ++ " '").toUTF8 ++ name ++ "'".toUTF8
  | _, none, some info =>
    if info.lineDefined = 0 then "main chunk".toUTF8
    else "function <".toUTF8 ++ chunkId info.source ++ (":" ++ Nat.repr info.lineDefined ++ ">").toUTF8
  | _, none, none => "?".toUTF8

/-- The list of the functions that have not returned, from a level on. -/
def listFrames (thread : Nat) : Nat → Nat → ByteArray → Action ByteArray
  | 0, _, acc => return acc
  | fuel + 1, level, acc => do
    match ← viewOf thread level with
    | none => return acc
    | some v =>
      let place := match v.info with
        | some info => chunkId info.source ++ (":" ++ Nat.repr v.line).toUTF8
        | none => "[C]".toUTF8
      let tail := if v.isTail then "\n\t(...tail calls...)".toUTF8 else .empty
      listFrames thread fuel (level + 1)
        (acc ++ "\n\t".toUTF8 ++ place ++ ": in ".toUTF8 ++ functionText v ++ tail)

/-- A message with the list of the functions that have not returned. -/
def traceback (args : Args) : Action (List Value) := do
  let (thread, skip) ← targetThread args
  let message := arg args (skip + 1)
  if message.concatBytes?.isNone && !message.isNil then return [message]
  else
    let start ← optInt args (skip + 2) (if skip = 0 then 1 else 0)
    let front := match message.concatBytes? with
      | some s => s ++ "\n".toUTF8
      | none => .empty
    let list ← listFrames thread 200 start.toNatClampNeg (front ++ "stack traceback:".toUTF8)
    return [.str (list ++ (if skip = 0 then "\n\t[C]: in ?".toUTF8 else .empty))]

/-- Runs a function that looks into running functions. -/
def debug (f : DebugFunction) (args : Args) : Action (List Value) :=
  match f with
  | .debug | .sethook => return []
  | .gethook => return [.nil]
  | .getinfo => getinfo args
  | .getlocal => getlocal args
  | .setlocal => setlocal args
  | .getmetatable => do
    let v ← needAny args 1
    match ← read (·.metatable? v) with
    | some m => return [.table m]
    | none => return [.nil]
  | .setmetatable => do
    match arg args 2 with
    | .nil | .table _ =>
      let m : Option Nat := match arg args 2 with
        | .table m => some m
        | _ => none
      match arg args 1 with
      | .table a => update (·.modifyTable a fun t ↦ { t with metatable := m })
      | v => update (·.setTypeMeta v.typeName m)
      return [arg args 1]
    | _ => wrongType args 2 "nil or table"
  | .getregistry => do
    let r ← read Heap.registry
    return [.table (← modifyGet (·.newTableOf
      [("_LOADED", .table r.loaded), ("_PRELOAD", .table r.preload)]))]
  | .getupvalue => do
    let n ← needInt args 2
    let g ← needFunction args 1
    match ← read (captureAt g n) with
    | some (name, cell) => return [.str name, ← read (·.cell cell)]
    | none => return []
  | .setupvalue => do
    let x ← needAny args 3
    let n ← needInt args 2
    let g ← needFunction args 1
    match ← read (captureAt g n) with
    | some (name, cell) => do
      update (·.setCell cell x)
      return [.str name]
    | none => return []
  | .upvalueid => do
    let n ← needInt args 2
    let g ← needFunction args 1
    match ← read (captureAt g n) with
    | some (_, cell) => return [.userdata (1000000000 + cell)]
    | none => return [.nil]
  | .upvaluejoin => do
    let n ← needInt args 2
    let g ← needFunction args 1
    let n' ← needInt args 4
    let g' ← needFunction args 3
    let source ← read (captureAt g' n')
    let target ← read (captureAt g n)
    match target, source, g with
    | some _, some (_, cell), .function a => do
      update (joinCapture a (n.toNatClampNeg - 1) cell)
      return []
    | none, _, _ => badArgument 2 "invalid upvalue index"
    | _, _, _ => badArgument 4 "invalid upvalue index"
  | .getuservalue => return [.nil, .bool false]
  | .setuservalue => return [.nil]
  | .traceback => traceback args

end MacroStream.Script.Library
