import MacroStream.Script.Number
import MacroStream.Script.Primitive

/-!
# Values of the script language

A value is plain data or the address of something in the heap. Two references are equal when their
addresses are. `Key` is a value that a table can be indexed with: a floating-point number with an
integral value is the integer, and there is none for nil and NaN.
-/

namespace MacroStream.Script

/-- A value of a running script. -/
inductive Value where
  | nil
  | bool (b : Bool)
  | int (n : Int64)
  | float (x : Float)
  | str (s : ByteArray)
  | table (address : Nat)
  /-- A function with a state: one that a script made, or a host function. -/
  | function (address : Nat)
  | primitive (f : Primitive)
  | thread (address : Nat)
  | userdata (address : Nat)

instance : Inhabited Value := ⟨.nil⟩

/-- A value that something in a table is found under. -/
inductive Key where
  | bool (b : Bool)
  | int (n : Int64)
  /-- A number without an integral value, by its bits. -/
  | float (bits : UInt64)
  | str (s : ByteArray)
  | table (address : Nat)
  | function (address : Nat)
  | primitive (f : Primitive)
  | thread (address : Nat)
  | userdata (address : Nat)
  deriving DecidableEq

namespace Key

/-- The value that a key stands for. -/
def toValue : Key → Value
  | bool b => .bool b
  | int n => .int n
  | float bits => .float (Float.ofBits bits)
  | str s => .str s
  | table a => .table a
  | function a => .function a
  | primitive f => .primitive f
  | thread a => .thread a
  | userdata a => .userdata a

end Key

namespace Value

/-- The key for a value; none for nil and NaN. -/
def toKey? : Value → Option Key
  | nil => none
  | bool b => some (.bool b)
  | int n => some (.int n)
  | float x =>
    if x.isNaN then none
    else match Num.exactInt? x with
      | some n => some (.int n)
      | none => some (.float x.toBits)
  | str s => some (.str s)
  | table a => some (.table a)
  | function a => some (.function a)
  | primitive f => some (.primitive f)
  | thread a => some (.thread a)
  | userdata a => some (.userdata a)

/-- Everything but nil and false counts as true. -/
def isTruthy : Value → Bool
  | nil | bool false => false
  | _ => true

/-- Whether a value is nil. -/
def isNil : Value → Bool
  | nil => true
  | _ => false

/-- The number that a value is. -/
def toNum? : Value → Option Num
  | int n => some (.int n)
  | float x => some (.float x)
  | _ => none

/-- A number as a value. -/
def ofNum : Num → Value
  | .int n => int n
  | .float x => float x

/-- The string of a text. -/
def ofString (s : String) : Value := str s.toUTF8

/-- Equality without a look at metatables. -/
def rawEq : Value → Value → Bool
  | nil, nil => true
  | bool a, bool b => a == b
  | int a, int b => a == b
  | int a, float b => Num.eq (.int a) (.float b)
  | float a, int b => Num.eq (.float a) (.int b)
  | float a, float b => a == b
  | str a, str b => a == b
  | table a, table b => a == b
  | function a, function b => a == b
  | primitive a, primitive b => a == b
  | thread a, thread b => a == b
  | userdata a, userdata b => a == b
  | _, _ => false

/-- The name of the type of a value. -/
def typeName : Value → String
  | nil => "nil"
  | bool _ => "boolean"
  | int _ | float _ => "number"
  | str _ => "string"
  | table _ => "table"
  | function _ | primitive _ => "function"
  | thread _ => "thread"
  | userdata _ => "userdata"

end Value

/-- The order of byte strings. -/
def bytesLt : List UInt8 → List UInt8 → Bool
  | [], [] => false
  | [], _ :: _ => true
  | _ :: _, [] => false
  | a :: as, b :: bs => if a = b then bytesLt as bs else a < b

end MacroStream.Script
