import MacroStream.Script.Number
import MacroStream.Script.Syntax

/-!
# Arithmetic

The operators on numbers. Addition, subtraction, multiplication, floor division and remainder of two
integers are integers; a quotient and a power are always floating-point; the operators on bits take
numbers with an integral value.
-/

namespace MacroStream.Script

/-- The result of an operator on two numbers. -/
inductive ArithResult where
  | number (n : Num)
  /-- Integer division by zero. -/
  | divisionByZero
  /-- An integer remainder by zero. -/
  | remainderByZero
  /-- An operand on bits has no integral value. -/
  | noInteger
  deriving Repr

namespace Arith

/-- An operator that has a form for integers and one for floating-point numbers. -/
def both (onInts : Int64 → Int64 → Int64) (onFloats : Float → Float → Float) (a b : Num) :
    ArithResult :=
  match a, b with
  | .int m, .int n => .number (.int (onInts m n))
  | _, _ => .number (.float (onFloats a.toFloat b.toFloat))

/-- An operator on floating-point numbers. -/
def floats (f : Float → Float → Float) (a b : Num) : ArithResult :=
  .number (.float (f a.toFloat b.toFloat))

/-- An operator on bits. -/
def bits (f : Int64 → Int64 → Int64) (a b : Num) : ArithResult :=
  match a.toInt?, b.toInt? with
  | some m, some n => .number (.int (f m n))
  | _, _ => .noInteger

/-- A power; a square is a product. -/
def power (x y : Float) : Float := if y == 2.0 then x * x else x.pow y

/-- The operators that compute a number; the others do not get here. -/
def apply (op : BinaryOp) (a b : Num) : ArithResult :=
  match op with
  | .add => both (· + ·) (· + ·) a b
  | .sub => both (· - ·) (· - ·) a b
  | .mul => both (· * ·) (· * ·) a b
  | .div => floats (· / ·) a b
  | .pow => floats power a b
  | .idiv =>
    match a, b with
    | .int m, .int n => (Num.floorDivInt? m n).elim .divisionByZero (.number ∘ .int)
    | _, _ => floats (fun x y ↦ (x / y).floor) a b
  | .mod =>
    match a, b with
    | .int m, .int n => (Num.floorModInt? m n).elim .remainderByZero (.number ∘ .int)
    | _, _ => floats Num.floorMod a b
  | .band => bits (· &&& ·) a b
  | .bor => bits (· ||| ·) a b
  | .bxor => bits (· ^^^ ·) a b
  | .shl => bits Num.shiftLeft a b
  | .shr => bits (fun m n ↦ Num.shiftLeft m (-n)) a b
  | .eq | .ne | .lt | .le | .gt | .ge => .noInteger

/-- The negative of a number. -/
def negate : Num → Num
  | .int n => .int (-n)
  | .float x => .float (-x)

end Arith

/-- Operators on the bits of integers. -/
def BinaryOp.isBitwise : BinaryOp → Bool
  | .band | .bor | .bxor | .shl | .shr => true
  | _ => false

/-- Operators that compare. -/
def BinaryOp.isComparison : BinaryOp → Bool
  | .eq | .ne | .lt | .le | .gt | .ge => true
  | _ => false

end MacroStream.Script
