import MacroStream.Script.Operations

/-!
# Arguments of library functions

Library functions take a list of values and look at it by position, counted from 1. The functions
here read an argument as what it has to be, or complain: `bad argument #1 to 'rep' (string expected,
got nil)`. The name in the complaint is the one that the function was called by; of a method, the
object it was called on is not counted.
-/

namespace MacroStream.Script

/-- Arguments of a library function. -/
abbrev Args := List Value

namespace Action

variable {α : Type}

/-- Gives up because of argument `n`. -/
def badArgumentBytes (n : Nat) (message : ByteArray) : Action α := do
  let frame? ← view 0
  let called := frame?.bind FrameView.name
  let own : ByteArray := match frame?.map FrameView.function with
    | some (.primitive p) => p.qualifiedName.toUTF8
    | _ => "?".toUTF8
  match called with
  | some ("method", name) =>
    if n ≤ 1 then
      failBytes ("calling '".toUTF8 ++ name ++ "' on bad self (".toUTF8 ++ message ++ ")".toUTF8)
    else
      failBytes (("bad argument #" ++ Nat.repr (n - 1) ++ " to '").toUTF8 ++ name ++ "' (".toUTF8 ++
        message ++ ")".toUTF8)
  | some (_, name) =>
    failBytes (("bad argument #" ++ Nat.repr n ++ " to '").toUTF8 ++ name ++ "' (".toUTF8 ++
      message ++ ")".toUTF8)
  | none =>
    failBytes (("bad argument #" ++ Nat.repr n ++ " to '").toUTF8 ++ own ++ "' (".toUTF8 ++
      message ++ ")".toUTF8)

/-- Gives up because of argument `n`. -/
def badArgument (n : Nat) (message : String) : Action α := badArgumentBytes n message.toUTF8

/-- Argument `n`, if it is there. -/
def arg? (args : Args) (n : Nat) : Option Value := args[n - 1]?

/-- Argument `n`, or nil. -/
def arg (args : Args) (n : Nat) : Value := args.getD (n - 1) .nil

/-- Gives up because argument `n` is not of the expected type. -/
def wrongType (args : Args) (n : Nat) (expected : String) : Action α := do
  let got ← match arg? args n with
    | none => pure "no value".toUTF8
    | some v => read fun h ↦
        match h.metafield v MetaName.name with
        | .str s => s
        | _ => v.typeName.toUTF8
  badArgumentBytes n ((expected ++ " expected, got ").toUTF8 ++ got)

/-- Argument `n`, which has to be there. -/
def needAny (args : Args) (n : Nat) : Action Value :=
  match arg? args n with
  | some v => return v
  | none => badArgument n "value expected"

/-- The number that a value is or stands for. -/
def numberOf? : Value → Option Num
  | .str s => Num.read? s
  | v => v.toNum?

/-- Argument `n` as a number. -/
def needNumber (args : Args) (n : Nat) : Action Num :=
  match numberOf? (arg args n) with
  | some x => return x
  | none => wrongType args n "number"

/-- Argument `n` as a floating-point number. -/
def needFloat (args : Args) (n : Nat) : Action Float := return (← needNumber args n).toFloat

/-- Argument `n` as an integer. -/
def needInt (args : Args) (n : Nat) : Action Int64 :=
  match numberOf? (arg args n) with
  | some x =>
    match x.toInt? with
    | some i => return i
    | none => badArgument n "number has no integer representation"
  | none => wrongType args n "number"

/-- Whether argument `n` is missing or nil. -/
def isAbsent (args : Args) (n : Nat) : Bool := (arg args n).isNil

/-- Argument `n` as an integer, or what stands for it when it is missing. -/
def optInt (args : Args) (n : Nat) (default : Int64) : Action Int64 :=
  if isAbsent args n then return default else needInt args n

/-- Argument `n` as a number, or what stands for it when it is missing. -/
def optNumber (args : Args) (n : Nat) (default : Num) : Action Num :=
  if isAbsent args n then return default else needNumber args n

/-- Argument `n` as bytes; a number stands for its text. -/
def needBytes (args : Args) (n : Nat) : Action ByteArray :=
  match (arg args n).concatBytes? with
  | some s => return s
  | none => wrongType args n "string"

/-- Argument `n` as bytes, or what stands for it when it is missing. -/
def optBytes (args : Args) (n : Nat) (default : ByteArray) : Action ByteArray :=
  if isAbsent args n then return default else needBytes args n

/-- Argument `n` as the address of a table. -/
def needTable (args : Args) (n : Nat) : Action Nat :=
  match arg args n with
  | .table a => return a
  | _ => wrongType args n "table"

/-- Argument `n` as a function. -/
def needFunction (args : Args) (n : Nat) : Action Value :=
  let f := arg args n
  if f.isFunction then return f else wrongType args n "function"

/-- Argument `n` as one of some texts, by its position among them. -/
def needOption (args : Args) (n : Nat) (default : Option String) (options : List String) :
    Action Nat := do
  let given ← match default with
    | some d => optBytes args n d.toUTF8
    | none => needBytes args n
  match options.findIdx? fun o ↦ o.toUTF8 == given with
  | some i => return i
  | none => badArgumentBytes n ("invalid option '".toUTF8 ++ given ++ "'".toUTF8)

/-- The value of a key, with a look at metatables. -/
def getKey (o k : Value) : Action Value := index none none o k

/-- Gives a key a value, with a look at metatables. -/
def setKey (o k v : Value) : Action Unit := setIndex none none o k v

/-- The length of a value as an integer. -/
def lengthOf (o : Value) : Action Int64 := do
  match (← length none o none).toNum?.bind Num.toInt? with
  | some n => return n
  | none => fail "object length is not an integer"

end Action

/-- The text of a number, or a string as it is. -/
def textValue (s : String) : Value := .str s.toUTF8

end MacroStream.Script
