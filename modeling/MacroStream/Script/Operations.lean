import MacroStream.Script.Arithmetic
import MacroStream.Script.Signal

/-!
# Operations on values

What the operators of the script language do, with the metatables that may change it. An operation
is used by scripts and by library functions alike; it is told the place in a chunk that an error
message has to name, and a library function has none.

Where an operand has a name in the source, the message says so: `attempt to call a nil value
(global 'x')`.
-/

namespace MacroStream.Script

/-! ### Places and messages -/

/-- The longest text for the name of a chunk, in bytes, with one byte for its end. -/
def chunkIdSize : Nat := 60

/-- The first `n` bytes. -/
def takeBytes (n : Nat) (s : ByteArray) : ByteArray := s.extract 0 n

/-- The last `n` bytes. -/
def lastBytes (n : Nat) (s : ByteArray) : ByteArray := s.extract (s.size - n) s.size

/-- How messages write the name of a chunk: a name behind `=` as it is, a path behind `@` with its
end kept, and any other name is the source itself, of which the beginning of the first line is
shown. -/
def chunkId (source : ByteArray) : ByteArray :=
  match source.data.toList with
  | 61 :: _ => takeBytes (chunkIdSize - 1) (source.extract 1 source.size)
  | 64 :: _ =>
    if source.size ≤ chunkIdSize then source.extract 1 source.size
    else "...".toUTF8 ++ lastBytes (chunkIdSize - 4) source
  | bytes =>
    let room := chunkIdSize - 15
    let line := bytes.takeWhile fun b ↦ b ≠ 10
    let shown :=
      if line.length = source.size && source.size < room then source
      else ByteArray.mk (line.take room).toArray ++ "...".toUTF8
    "[string \"".toUTF8 ++ shown ++ "\"]".toUTF8

/-- A place as it stands in front of a message. -/
def Place.text (p : Place) : ByteArray :=
  chunkId p.source ++ (":" ++ Nat.repr p.line ++ ": ").toUTF8

/-- The name of a value behind a message. -/
def nameText : Option NameInUse → ByteArray
  | none => .empty
  | some (kind, name) => (" (" ++ kind ++ " '").toUTF8 ++ name ++ "')".toUTF8

namespace Action

variable {α : Type}

/-- Gives up with a message about a place. -/
def fault (place : Option Place) (message : ByteArray) : Action α :=
  match place with
  | some p => throw (.str (p.text ++ message))
  | none => throw (.str message)

/-- Gives up with a message about a place. -/
def faultText (place : Option Place) (message : String) : Action α := fault place message.toUTF8

/-- The place of a function that has not returned yet, as it stands in front of a message; empty for
one that is not written in the script language. -/
def placeOf (level : Nat) : Action ByteArray := do
  match ← view level with
  | some v =>
    match v.info with
    | some info => return Place.text ⟨info.source, v.line⟩
    | none => return .empty
  | none => return .empty

/-- Gives up with a message about the place that called the running library function. -/
def failBytes (message : ByteArray) : Action α := do
  throw (.str ((← placeOf 1) ++ message))

/-- Gives up with a message about the place that called the running library function. -/
def fail (message : String) : Action α := failBytes message.toUTF8

end Action

/-! ### Metatables -/

/-! Names of what metatables may say. -/

namespace MetaName

def index : ByteArray := "__index".toUTF8
def newindex : ByteArray := "__newindex".toUTF8
def call : ByteArray := "__call".toUTF8
def eq : ByteArray := "__eq".toUTF8
def lt : ByteArray := "__lt".toUTF8
def le : ByteArray := "__le".toUTF8
def len : ByteArray := "__len".toUTF8
def concat : ByteArray := "__concat".toUTF8
def unm : ByteArray := "__unm".toUTF8
def bnot : ByteArray := "__bnot".toUTF8
def tostring : ByteArray := "__tostring".toUTF8
def name : ByteArray := "__name".toUTF8
def metatable : ByteArray := "__metatable".toUTF8
def pairs : ByteArray := "__pairs".toUTF8
def close : ByteArray := "__close".toUTF8

end MetaName

/-- The name of an operator in metatables, without the underscores. -/
def BinaryOp.event : BinaryOp → String
  | add => "add"
  | sub => "sub"
  | mul => "mul"
  | div => "div"
  | idiv => "idiv"
  | mod => "mod"
  | pow => "pow"
  | band => "band"
  | bor => "bor"
  | bxor => "bxor"
  | shl => "shl"
  | shr => "shr"
  | eq | ne => "eq"
  | lt | gt => "lt"
  | le | ge => "le"

/-- Whether a value can be called as it is. -/
def Value.isFunction : Value → Bool
  | .function _ | .primitive _ => true
  | _ => false

/-- Whether a value is a string. -/
def Value.isString : Value → Bool
  | .str _ => true
  | _ => false

/-- The name of the type of a value in messages; a metatable may give another. -/
def Heap.typeNameOf (h : Heap) (v : Value) : ByteArray :=
  let own := v.typeName.toUTF8
  match v with
  | .table _ | .userdata _ =>
    match h.metafield v MetaName.name with
    | .str s => s
    | _ => own
  | _ => own

/-- The call site of a function that a metatable names. -/
def metaSite (place : Option Place) (event : String) : CallSite :=
  ⟨(place.map Place.line).getD 0, some ("metamethod", event.toUTF8)⟩

namespace Action

variable {α : Type}

/-- Gives up because a value is not of the right type for what is done to it. -/
def typeFault (place : Option Place) (what : String) (v : Value) (name : Option NameInUse) :
    Action α := do
  let type ← read (·.typeNameOf v)
  fault place
    (("attempt to " ++ what ++ " a ").toUTF8 ++ type ++ " value".toUTF8 ++ nameText name)

/-- Calls a function that a metatable names. -/
def callMeta (place : Option Place) (event : String) (f : Value) (args : List Value) :
    Action (List Value) :=
  call f args (metaSite place event)

/-- The first value that a function in a metatable answers. -/
def callMetaFirst (place : Option Place) (event : String) (f : Value) (args : List Value) :
    Action Value := do
  return (← callMeta place event f args).headD .nil

/-- Metatables refer to each other at most this often in one access. -/
def metaLimit : Nat := 2000

/-- The value of a key, looked up through at most `fuel` metatables. -/
def indexLoop (place : Option Place) (k : Value) :
    Nat → Value → Option NameInUse → Action Value
  | 0, _, _ => faultText place "'__index' chain too long; possibly a loop"
  | fuel + 1, o, name => do
    let found : Value ← read fun h ↦
      match o with
      | .table a => (h.table a).getValue k
      | _ => .nil
    if !found.isNil then return found
    let handler ← read (·.metafield o MetaName.index)
    if handler.isNil then
      match o with
      | .table _ => return .nil
      | _ => typeFault place "index" o name
    else if handler.isFunction then callMetaFirst place "index" handler [o, k]
    else indexLoop place k fuel handler none

/-- The value of a key. -/
def index (place : Option Place) (name : Option NameInUse) (o k : Value) : Action Value :=
  indexLoop place k metaLimit o name

/-- Gives a key a value in a table, without a look at metatables. -/
def rawSet (place : Option Place) (a : Nat) (k v : Value) : Action Unit :=
  match k.toKey? with
  | some key => update (·.rawSet a key v)
  | none =>
    faultText place (if k.isNil then "table index is nil" else "table index is NaN")

/-- Gives a key a value, through at most `fuel` metatables. -/
def setIndexLoop (place : Option Place) (k v : Value) :
    Nat → Value → Option NameInUse → Action Unit
  | 0, _, _ => faultText place "'__newindex' chain too long; possibly a loop"
  | fuel + 1, o, name => do
    let handler : Value ← read fun h ↦
      match o with
      | .table a =>
        let t := h.table a
        match t.metatable with
        | none => .nil
        | some m =>
          if (t.getValue k).isNil then h.rawGet m (.str MetaName.newindex) else .nil
      | _ => h.metafield o MetaName.newindex
    if handler.isNil then
      match o with
      | .table a => rawSet place a k v
      | _ => typeFault place "index" o name
    else if handler.isFunction then
      let _ ← callMeta place "newindex" handler [o, k, v]
      return ()
    else setIndexLoop place k v fuel handler none

/-- Gives a key a value. -/
def setIndex (place : Option Place) (name : Option NameInUse) (o k v : Value) : Action Unit :=
  setIndexLoop place k v metaLimit o name

/-- What a binary operator finds in the metatables of its operands. -/
def binaryHandler (event : ByteArray) (a b : Value) : Action Value :=
  read fun h ↦
    let first := h.metafield a event
    if first.isNil then h.metafield b event else first

/-! ### Arithmetic -/

/-- Gives up because two operands are not right for an operator. -/
def operandFault (place : Option Place) (op : BinaryOp) (a b : Value)
    (nameA nameB : Option NameInUse) : Action α :=
  match a.toNum?, b.toNum? with
  | some m, some _ =>
    let name := if m.toInt?.isNone then nameA else nameB
    fault place ("number".toUTF8 ++ nameText name ++ " has no integer representation".toUTF8)
  | _, _ =>
    let what := if op.isBitwise then "perform bitwise operation on" else "perform arithmetic on"
    if a.toNum?.isNone then typeFault place what a nameA else typeFault place what b nameB

/-- The result of an operator that metatables define, or a complaint. -/
def arithMeta (place : Option Place) (op : BinaryOp) (a b : Value)
    (nameA nameB : Option NameInUse) : Action Value := do
  let handler ← binaryHandler ("__" ++ op.event).toUTF8 a b
  if handler.isNil then operandFault place op a b nameA nameB
  else callMetaFirst place op.event handler [a, b]

/-- An operator on two values. -/
def arith (place : Option Place) (op : BinaryOp) (a b : Value)
    (nameA nameB : Option NameInUse) : Action Value :=
  match a.toNum?, b.toNum? with
  | some m, some n =>
    match Arith.apply op m n with
    | .number r => return .ofNum r
    | .divisionByZero => faultText place "attempt to divide by zero"
    | .remainderByZero => faultText place "attempt to perform 'n%0'"
    | .noInteger => arithMeta place op a b nameA nameB
  | _, _ => arithMeta place op a b nameA nameB

/-- The negative of a value. -/
def negate (place : Option Place) (a : Value) (name : Option NameInUse) : Action Value :=
  match a.toNum? with
  | some n => return .ofNum (Arith.negate n)
  | none => do
    let handler ← read (·.metafield a MetaName.unm)
    if handler.isNil then typeFault place "perform arithmetic on" a name
    else callMetaFirst place "unm" handler [a, a]

/-- The complement of the bits of a value. -/
def complement (place : Option Place) (a : Value) (name : Option NameInUse) : Action Value :=
  match a.toNum?.bind Num.toInt? with
  | some n => return .int (~~~n)
  | none => do
    let handler ← read (·.metafield a MetaName.bnot)
    if handler.isNil then operandFault place .band a a name name
    else callMetaFirst place "bnot" handler [a, a]

/-- The length of a value. -/
def length (place : Option Place) (v : Value) (name : Option NameInUse) : Action Value :=
  match v with
  | .str s => return .int (Int64.ofNat s.size)
  | _ => do
    let handler ← read (·.metafield v MetaName.len)
    if !handler.isNil then callMetaFirst place "len" handler [v, v]
    else
      match v with
      | .table a => return .int (← read fun h ↦ (h.table a).length)
      | _ => typeFault place "get length of" v name

/-! ### Concatenation -/

end Action

/-- The bytes that a string or a number is concatenated as. -/
def Value.concatBytes? : Value → Option ByteArray
  | .str s => some s
  | .int n => some (Num.text (.int n)).toUTF8
  | .float x => some (Num.text (.float x)).toUTF8
  | _ => none

namespace Action

variable {α : Type}

/-- Joins two values. -/
def concatTwo (place : Option Place) (a b : Value) (nameA nameB : Option NameInUse) :
    Action Value :=
  match a.concatBytes?, b.concatBytes? with
  | some s, some t => do
    reserve (s.size + t.size)
    return .str (s ++ t)
  | s?, _ => do
    let handler ← binaryHandler MetaName.concat a b
    if handler.isNil then
      if s?.isSome then typeFault place "concatenate" b nameB
      else typeFault place "concatenate" a nameA
    else callMetaFirst place "concat" handler [a, b]

/-- Joins values from the right: `rest` are those on the left of `acc`, the nearest first. -/
def concatOnto (place : Option Place) (acc : Value) (name : Option NameInUse) :
    List (Value × Option NameInUse) → Action Value
  | [] => return acc
  | (v, nameV) :: rest => do
    concatOnto place (← concatTwo place v acc nameV name) none rest

/-- Joins values, from the right. -/
def concatAll (place : Option Place) (vs : List (Value × Option NameInUse)) : Action Value :=
  match vs.reverse with
  | [] => return .nil
  | (v, name) :: rest => concatOnto place v name rest

/-! ### Comparison -/

/-- Whether two values are equal; tables and host objects may have their own idea of it. -/
def equal (place : Option Place) (a b : Value) : Action Bool := do
  if a.rawEq b then return true
  match a, b with
  | .table _, .table _ | .userdata _, .userdata _ =>
    let handler ← binaryHandler MetaName.eq a b
    if handler.isNil then return false
    return (← callMetaFirst place "eq" handler [a, b]).isTruthy
  | _, _ => return false

/-- Gives up because two values cannot be compared. -/
def compareFault (place : Option Place) (a b : Value) : Action α := do
  let s ← read (·.typeNameOf a)
  let t ← read (·.typeNameOf b)
  if s = t then
    fault place ("attempt to compare two ".toUTF8 ++ s ++ " values".toUTF8)
  else fault place ("attempt to compare ".toUTF8 ++ s ++ " with ".toUTF8 ++ t)

/-- Whether `a` comes before `b`, or is not behind it; `orEqual` says which. -/
def precedes (place : Option Place) (orEqual : Bool) (a b : Value) : Action Bool :=
  match a, b with
  | .str s, .str t =>
    return if orEqual then !bytesLt t.toList s.toList else bytesLt s.toList t.toList
  | _, _ =>
    match a.toNum?, b.toNum? with
    | some m, some n => return if orEqual then m.le n else m.lt n
    | _, _ => do
      let event := if orEqual then MetaName.le else MetaName.lt
      let handler ← binaryHandler event a b
      if handler.isNil then compareFault place a b
      else
        return (← callMetaFirst place (if orEqual then "le" else "lt") handler [a, b]).isTruthy

/-- An operator that compares. -/
def compare (place : Option Place) (op : BinaryOp) (a b : Value) : Action Bool :=
  match op with
  | .eq => equal place a b
  | .ne => return !(← equal place a b)
  | .lt => precedes place false a b
  | .le => precedes place true a b
  | .gt => precedes place false b a
  | .ge => precedes place true b a
  | _ => return false

end Action

/-! ### Texts of values -/

/-- The text of a place in the heap. -/
def addressText (kind : Nat) (a : Nat) : String :=
  "0x" ++ String.ofList (List.replicate 4 '0' ++
    (Nat.toDigits 16 (0x555500000000 + kind * 0x10000000 + 32 * a)))

/-- The address that stands for a value that is not plain data. -/
def Value.addressText : Value → String
  | .table a => Script.addressText 1 a
  | .function a => Script.addressText 2 a
  | .primitive p => Script.addressText 3 (p.qualifiedName.hash.toNat % 65536)
  | .thread a => Script.addressText 4 a
  | .userdata a => Script.addressText 5 a
  | _ => Script.addressText 0 0

/-- The text of a value that no metatable defines. -/
def Heap.plainText (h : Heap) (v : Value) : ByteArray :=
  match v with
  | .nil => "nil".toUTF8
  | .bool true => "true".toUTF8
  | .bool false => "false".toUTF8
  | .int n => (Num.text (.int n)).toUTF8
  | .float x => (Num.text (.float x)).toUTF8
  | .str s => s
  | .userdata a =>
    match h.object? a with
    | some (.hostError m) => (m ++ "\nstack traceback:\n\t[C]: in ?").toUTF8
    | some (.file f) =>
      if f.isOpen then ("file (" ++ v.addressText ++ ")").toUTF8 else "file (closed)".toUTF8
    | none => h.typeNameOf v ++ (": " ++ v.addressText).toUTF8
  | v =>
    let kind := match h.metafield v MetaName.name with
      | .str s => s
      | _ => v.typeName.toUTF8
    kind ++ (": " ++ v.addressText).toUTF8

namespace Action

/-- The text of a value. -/
def toText (v : Value) : Action ByteArray := do
  let handler ← read (·.metafield v MetaName.tostring)
  if handler.isNil then read (·.plainText v)
  else
    match (← callPlain handler [v]).headD .nil with
    | .str s => return s
    | .int n => return (Num.text (.int n)).toUTF8
    | .float x => return (Num.text (.float x)).toUTF8
    | _ => fail "'__tostring' must return a string"

end Action

end MacroStream.Script
