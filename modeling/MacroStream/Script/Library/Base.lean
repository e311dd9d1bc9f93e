import MacroStream.Script.Library.Arguments
import MacroStream.Script.Parser

/-!
# Global functions

The functions that scripts find among the global variables, all but `require`.
-/

namespace MacroStream.Script.Library

open Action

/-! ### Chunks -/

/-- The text for a chunk that cannot be read. -/
def chunkFaultText (source : ByteArray) : ChunkFault → ByteArray
  | .malformed f => Place.text ⟨source, f.line⟩ ++ f.message
  | .tooDeep => "C stack overflow".toUTF8

/-- The name of a chunk that has been compiled before: without the mark of its kind. -/
def compiledName (source : ByteArray) : ByteArray :=
  match source.data.toList.head? with
  | some 64 | some 61 => source.extract 1 source.size
  | some 27 => "binary string".toUTF8
  | _ => source

/-- Why a text that claims to be a compiled chunk is none: a compiled chunk starts with a mark, a
version, a format and fixed bytes. No such chunk can have been made here, so the text ends too soon
at the latest behind that. -/
def compiledFault (text : List UInt8) : String :=
  let parts : List (List UInt8 × String) :=
    [("\x1bLua".toUTF8.data.toList, "not a binary chunk"), ([84], "version mismatch"),
      ([0], "format mismatch"), ([25, 147, 13, 10, 26, 10], "corrupted chunk"),
      ([4], "Instruction size mismatch"), ([8], "lua_Integer size mismatch"),
      ([8], "lua_Number size mismatch")]
  go text parts
where
  /-- Compares the text with one part after the other. -/
  go (text : List UInt8) : List (List UInt8 × String) → String
    | [] => "truncated chunk"
    | (part, fault) :: parts =>
      if text.length < part.length then "truncated chunk"
      else if text.take part.length = part then go (text.drop part.length) parts
      else fault

/-- The text of a chunk behind a first line that starts with `#`. -/
def skipFirstComment (text : ByteArray) : ByteArray :=
  match text.data.toList with
  | 35 :: rest => ⟨(rest.dropWhile fun b ↦ b ≠ 10).toArray⟩
  | _ => text

/-- The function of a chunk, whose global variables are in `env`; or what is wrong with it. -/
def compile (source text mode : ByteArray) (env : Value) (depth : Nat) :
    Action (Except ByteArray Value) := do
  let wants (b : UInt8) := mode.data.toList.contains b
  if text.data.toList.head? = some 27 then
    if wants 98 then
      return .error (compiledName source ++
        (": bad binary format (" ++ compiledFault text.data.toList ++ ")").toUTF8)
    else
      return .error ("attempt to load a binary chunk (mode is '".toUTF8 ++ mode ++ "')".toUTF8)
  else if !wants 116 then
    return .error ("attempt to load a text chunk (mode is '".toUTF8 ++ mode ++ "')".toUTF8)
  else
    reserve (4 * text.size)
    match Parser.parse source depth text with
    | .error f => return .error (chunkFaultText source f)
    | .ok body =>
      let cell ← newCell env
      return .ok (← modifyGet (·.newFunction (.script body #[cell])))

/-- How deeply calls from outside the script language are nested. -/
def callDepth : Action Nat := fun k h ↦ (h, .depth k)

/-- The table of global variables. -/
def globals : Action Value := return .table (← read fun h ↦ h.registry.globals)

/-- Collects the pieces that a function answers. -/
def readPieces (f : Value) : Nat → ByteArray → Action (Except ByteArray ByteArray)
  | 0, acc => return .ok acc
  | fuel + 1, acc => do
    match (← callPlain f []).headD .nil with
    | .nil => return .ok acc
    | v =>
      match v.concatBytes? with
      | some s => if s.isEmpty then return .ok acc else readPieces f fuel (acc ++ s)
      | none => return .error "reader function must return a string".toUTF8

/-- Calls a function and catches what it throws. -/
def protect (handler : Option Value) (f : Value) (args : Args) :
    Action (Except Value (List Value)) :=
  fun k h ↦ (h, .protect handler f args k)

/-- The answers of a function that may fail: the value, or nil and a text. -/
def valueOrText : Except ByteArray Value → List Value
  | .ok v => [v]
  | .error m => [.nil, .str m]

/-- Reads a chunk from a string or from a function. -/
def load (args : Args) : Action (List Value) := do
  let env ← match arg? args 4 with
    | some v => pure v
    | none => globals
  let mode ← optBytes args 3 "bt".toUTF8
  match arg args 1 with
  | .str s => do
    let name ← optBytes args 2 s
    return valueOrText (← compile (Token.beforeZero name) s mode env (← callDepth))
  | f => do
    if f.concatBytes?.isSome then
      let s ← needBytes args 1
      return valueOrText (← compile (← optBytes args 2 s) s mode env (← callDepth))
    else
      let name ← optBytes args 2 "=(load)".toUTF8
      let f ← needFunction args 1
      match ← readPieces f 1000000000 .empty with
      | .error m => return [.nil, .str m]
      | .ok s => return valueOrText (← compile (Token.beforeZero name) s mode env (← callDepth))

/-- Reads a chunk from a file. -/
def loadFile (path : ByteArray) (mode : ByteArray) (env : Value) :
    Action (Except ByteArray Value) := do
  match ← ask (.readFile path) with
  | .error e =>
    let reason := (e.system?.map Prod.fst).getD e.message
    return .error ("cannot open ".toUTF8 ++ path ++ (": " ++ reason).toUTF8)
  | .ok text =>
    compile ("@".toUTF8 ++ Token.beforeZero path) (skipFirstComment text) mode env (← callDepth)

/-! ### Errors -/

/-- Throws a value; a string gets the place in front, of the function at the given level. -/
def throwAt (v : Value) (level : Int64) : Action (List Value) := do
  match v with
  | .str s =>
    if 0 < level then
      let place ← placeOf level.toNatClampNeg
      throw (.str (place ++ s))
    else throw v
  | _ => throw v

/-! ### Metatables -/

/-- Sets the metatable of a table. -/
def setmetatable (args : Args) : Action (List Value) := do
  let t ← needTable args 1
  match arg? args 2 with
  | some .nil | some (.table _) =>
    let protectedBy ← read (·.metafield (arg args 1) MetaName.metatable)
    if !protectedBy.isNil then fail "cannot change a protected metatable"
    else
      let m : Option Nat := match arg args 2 with
        | .table m => some m
        | _ => none
      update (·.modifyTable t fun t ↦ { t with metatable := m })
      return [arg args 1]
  | _ => wrongType args 2 "nil or table"

/-- The metatable of a value, or what it shows instead. -/
def getmetatable (v : Value) : Action Value :=
  read fun h ↦
    match h.metatable? v with
    | none => .nil
    | some m =>
      let shown := h.rawGet m (.str MetaName.metatable)
      if shown.isNil then .table m else shown

/-! ### Numbers -/

/-- The integer that digits in a base stand for. -/
def readInBase? (base : Nat) (s : ByteArray) : Option Int64 :=
  let cs := Num.strip s.data.toList
  let (negative, ds) := match cs with
    | 45 :: rest => (true, rest)
    | rest => (false, rest)
  if ds.isEmpty || ds.any fun b ↦ base ≤ Num.digitValue b then none
  else
    let n := Int64.ofNat (Num.ofDigits base ds)
    some (if negative then -n else n)

/-- The number that a value stands for. -/
def tonumber (args : Args) : Action (List Value) := do
  if isAbsent args 2 then
    match numberOf? (← needAny args 1) with
    | some n => return [.ofNum n]
    | none => return [.nil]
  else
    let base ← needInt args 2
    match arg args 1 with
    | .str s =>
      if base < 2 || 36 < base then badArgument 2 "base out of range"
      else
        match readInBase? base.toNatClampNeg s with
        | some n => return [.int n]
        | none => return [.nil]
    | _ => wrongType args 1 "string"

/-! ### Going through tables -/

/-- The entry of a table behind a key. -/
def next (args : Args) : Action (List Value) := do
  let t ← needTable args 1
  let after := arg args 2
  let found ← read fun h ↦
    match after.toKey? with
    | some k => (h.table t).next? (some k)
    | none => if after.isNil then (h.table t).next? none else none
  match found with
  | none => faultText none "invalid key to 'next'"
  | some none => return [.nil]
  | some (some (k, v)) => return [k.toValue, v]

/-! ### Memory -/

/-- A percentage as it is kept: in steps of four, in one byte. -/
def keptPercentage (n : Int64) : Nat := (n.toInt.tdiv 4 % 256).toNat * 4

/-- Answers about memory management. Nothing is managed, but what is asked for is remembered. -/
def collectgarbage (args : Args) : Action (List Value) := do
  let options := ["stop", "restart", "collect", "count", "step", "setpause", "setstepmul",
    "isrunning", "generational", "incremental"]
  let c ← read (·.collector)
  let set (c : Collector) : Action Unit := update fun h ↦ { h with collector := c }
  match options[← needOption args 1 (some "collect") options]? with
  | some "count" =>
    let used ← read fun h ↦ h.used
    return [.float (used.toFloat / 1024)]
  | some "step" =>
    let _ ← optInt args 2 0
    return [.bool true]
  | some "isrunning" => return [.bool c.runs]
  | some "stop" => set { c with runs := false }; return [.int 0]
  | some "restart" => set { c with runs := true }; return [.int 0]
  | some "setpause" =>
    let n ← optInt args 2 0
    set { c with pause := keptPercentage n }
    return [.int (Int64.ofNat c.pause)]
  | some "setstepmul" =>
    let n ← optInt args 2 0
    set { c with stepMultiplier := keptPercentage n }
    return [.int (Int64.ofNat c.stepMultiplier)]
  | some "generational" =>
    set { c with generational := true }
    return [textValue (modeName c)]
  | some "incremental" =>
    set { c with generational := false }
    return [textValue (modeName c)]
  | _ => return [.int 0]
where
  /-- The mode that the memory management is in. -/
  modeName (c : Collector) : String := if c.generational then "generational" else "incremental"

/-! ### The functions -/

/-- The texts of values with tabs between them. -/
def tabbed : List Value → Action ByteArray
  | [] => return .empty
  | [v] => toText v
  | v :: vs => do
    let s ← toText v
    return s ++ "\t".toUTF8 ++ (← tabbed vs)

/-- Runs a global function. -/
def base (f : BaseFunction) (args : Args) : Action (List Value) :=
  match f with
  | .assert => do
    if (arg args 1).isTruthy then return args
    else
      let _ ← needAny args 1
      throwAt ((arg? args 2).getD (textValue "assertion failed!")) 1
  | .collectgarbage => collectgarbage args
  | .dofile => do
    let path ← optBytes args 1 "/dev/stdin".toUTF8
    match ← loadFile path "bt".toUTF8 (← globals) with
    | .error m => throw (.str m)
    | .ok f => callPlain f []
  | .error => do
    let level ← optInt args 2 1
    throwAt (arg args 1) level
  | .getmetatable => do return [← getmetatable (← needAny args 1)]
  | .ipairs => do
    let t ← needAny args 1
    return [.primitive (.base .ipairsStep), t, .int 0]
  | .ipairsStep => do
    let i := (← needInt args 2) + 1
    let v ← getKey (arg args 1) (.int i)
    if v.isNil then return [.nil] else return [.int i, v]
  | .load => load args
  | .loadfile => do
    let path ← optBytes args 1 "/dev/stdin".toUTF8
    let mode ← optBytes args 2 "bt".toUTF8
    let env ← match arg? args 3 with
      | some v => pure v
      | none => globals
    return valueOrText (← loadFile path mode env)
  | .next => next args
  | .pairs => do
    let t ← needAny args 1
    let handler ← read (·.metafield t MetaName.pairs)
    if handler.isNil then return [.primitive (.base .next), t, .nil]
    else
      let vs ← callPlain handler [t]
      return [vs.headD .nil, vs.getD 1 .nil, vs.getD 2 .nil]
  | .pcall => do
    let f ← needAny args 1
    match ← protect none f (args.drop 1) with
    | .ok vs => return .bool true :: vs
    | .error e => return [.bool false, e]
  | .xpcall => do
    let handler ← needFunction args 2
    match ← protect (some handler) (arg args 1) (args.drop 2) with
    | .ok vs => return .bool true :: vs
    | .error e => return [.bool false, e]
  | .print => do
    let line ← tabbed args
    ask (.print (line ++ "\n".toUTF8) true)
    return []
  | .rawequal => do
    let a ← needAny args 1
    let b ← needAny args 2
    return [.bool (a.rawEq b)]
  | .rawget => do
    let t ← needTable args 1
    let k ← needAny args 2
    return [← read fun h ↦ (h.table t).getValue k]
  | .rawlen =>
    match arg args 1 with
    | .table a => do return [.int (← read fun h ↦ (h.table a).length)]
    | .str s => return [.int (Int64.ofNat s.size)]
    | _ => badArgument 1 "table or string expected"
  | .rawset => do
    let t ← needTable args 1
    let k ← needAny args 2
    let v ← needAny args 3
    rawSet none t k v
    return [arg args 1]
  | .require => return []
  | .select =>
    match arg args 1 with
    | .str s => do
      if s.data.toList.head? = some 35 then return [.int (Int64.ofNat (args.length - 1))]
      else selectFrom
    | _ => selectFrom
  | .setmetatable => setmetatable args
  | .tonumber => tonumber args
  | .tostring => do return [.str (← toText (← needAny args 1))]
  | .type => do return [textValue (← needAny args 1).typeName]
  | .warn => do
    let _ ← needBytes args 1
    return []
where
  /-- The arguments from a position on. -/
  selectFrom : Action (List Value) := do
    let n ← needInt args 1
    if 0 < n then return args.drop n.toNatClampNeg
    else if n < 0 && (-n).toNatClampNeg < args.length then
      return args.drop (args.length - (-n).toNatClampNeg)
    else badArgument 1 "index out of range"

end MacroStream.Script.Library
