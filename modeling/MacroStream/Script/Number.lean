import MacroStream.Decimal.Rounded

/-!
# Numbers of the script language

A number is a 64-bit integer or a floating-point number. Integer arithmetic wraps around, and the
two kinds are compared by their exact values, never through a rounded conversion.

The text of a floating-point number has 14 significant digits and always shows that it is one.
-/

-- Byte strings are compared by the core library, also beside a library with instances of its own.
attribute [instance (1100)] ByteArray.instDecidableEq

namespace MacroStream.Script

/-- A number. -/
inductive Num where
  | int (n : Int64)
  | float (x : Float)
  deriving Repr

namespace Num

/-- The number as a floating-point number. -/
def toFloat : Num → Float
  | int n => n.toFloat
  | float x => x

/-- The integer with exactly the value of `x`. -/
def exactInt? (x : Float) : Option Int64 :=
  if x.floor == x && -9223372036854775808.0 ≤ x && x < 9223372036854775808.0 then some x.toInt64
  else none

/-- The integer with exactly the value of the number. -/
def toInt? : Num → Option Int64
  | int n => some n
  | float x => exactInt? x

/-- The text of a finite number that is not zero is that of its absolute value behind a sign. -/
def signed (negative : Bool) (cs : List Char) : List Char := if negative then '-' :: cs else cs

/-- The text of a floating-point number with 14 significant digits. -/
def floatText (x : Float) : String :=
  match Decimal.Binary.ofFloat x with
  | .nan => "-nan"
  | .infinite negative => if negative then "-inf" else "inf"
  | .finite negative m q =>
    let cs := Decimal.general {} 14 m q
    let cs := if cs.all Char.isDigit then cs ++ ['.', '0'] else cs
    String.ofList (signed negative cs)

/-- The text of a number. -/
def text : Num → String
  | int n => Int.repr n.toInt
  | float x => floatText x

/-! ### Comparison -/

/-- The least integer that is not below `x`, for a number in the range of integers. -/
def ceilInt (x : Float) : Int64 := x.ceil.toInt64

/-- Whether an integer is below a floating-point number. -/
def intLtFloat (n : Int64) (x : Float) : Bool :=
  if x ≥ 9223372036854775808.0 then true
  else if x > -9223372036854775808.0 then n < ceilInt x
  else false

/-- Whether an integer is at most a floating-point number. -/
def intLeFloat (n : Int64) (x : Float) : Bool :=
  if x ≥ 9223372036854775808.0 then true
  else if x ≥ -9223372036854775808.0 then n ≤ x.floor.toInt64
  else false

/-- Whether a floating-point number is below an integer. -/
def floatLtInt (x : Float) (n : Int64) : Bool :=
  if x ≥ 9223372036854775808.0 then false
  else if x ≥ -9223372036854775808.0 then x.floor.toInt64 < n
  else !x.isNaN

/-- Whether a floating-point number is at most an integer. -/
def floatLeInt (x : Float) (n : Int64) : Bool :=
  if x ≥ 9223372036854775808.0 then false
  else if x > -9223372036854775808.0 then ceilInt x ≤ n
  else !x.isNaN

/-- Whether `a` is below `b`. -/
def lt : Num → Num → Bool
  | int a, int b => a < b
  | int a, float b => intLtFloat a b
  | float a, int b => floatLtInt a b
  | float a, float b => a < b

/-- Whether `a` is at most `b`. -/
def le : Num → Num → Bool
  | int a, int b => a ≤ b
  | int a, float b => intLeFloat a b
  | float a, int b => floatLeInt a b
  | float a, float b => a ≤ b

/-- Whether two numbers have the same value. -/
def eq : Num → Num → Bool
  | int a, int b => a == b
  | int a, float b => exactInt? b == some a
  | float a, int b => exactInt? a == some b
  | float a, float b => a == b

/-! ### Arithmetic -/

/-- The quotient rounded down; `none` for division by zero. -/
def floorDivInt? (a b : Int64) : Option Int64 :=
  if b = 0 then none
  else if b = -1 then some (-a)
  else
    let d := a / b
    some (if a % b ≠ 0 && ((a < 0) != (b < 0)) then d - 1 else d)

/-- The remainder with the sign of the divisor; `none` for division by zero. -/
def floorModInt? (a b : Int64) : Option Int64 :=
  if b = 0 then none
  else if b = -1 then some 0
  else
    let r := a % b
    some (if r ≠ 0 && ((r < 0) != (b < 0)) then r + b else r)

/-- The remainder of the truncated quotient of finite `x` and `y`, computed exactly. -/
def truncMod (x y : Float) : Float :=
  match Decimal.Binary.ofFloat x, Decimal.Binary.ofFloat y with
  | .finite negative m q, .finite _ m' q' =>
    if m' = 0 then 0.0 / 0.0
    else
      let low := min q q'
      let a := m * 2 ^ (q - low).toNat
      let b := m' * 2 ^ (q' - low).toNat
      -- The remainder has no more digits than the divisor, so the conversion is exact.
      let r := (Float.ofNat (a % b)).scaleB low
      if negative then -r else r
  | .finite _ _ _, .infinite _ => x
  | _, _ => 0.0 / 0.0

/-- The remainder with the sign of the divisor. -/
def floorMod (x y : Float) : Float :=
  let r := truncMod x y
  if (if r > 0.0 then y < 0.0 else r < 0.0 && y > 0.0) then r + y else r

/-- Shifts the bits of `a` to the left by `b` places, or to the right for a negative `b`; bits that
leave the word are lost and zeros come in. -/
def shiftLeft (a b : Int64) : Int64 :=
  let n := b.toInt
  if n ≤ -64 ∨ 64 ≤ n then 0
  else if 0 ≤ n then (a.toUInt64 <<< n.toNat.toUInt64).toInt64
  else (a.toUInt64 >>> (-n).toNat.toUInt64).toInt64

/-! ### Reading -/

/-- White space between the parts of a script. -/
def isSpace (b : UInt8) : Bool := b = 32 || (9 ≤ b && b ≤ 13)

/-- Decimal digits. -/
def isDigit (b : UInt8) : Bool := 48 ≤ b && b ≤ 57

/-- The value of a digit in a base up to 36, in either case of its letter. -/
def digitValue (b : UInt8) : Nat :=
  if isDigit b then b.toNat - 48
  else if 97 ≤ b && b ≤ 122 then b.toNat - 87
  else if 65 ≤ b && b ≤ 90 then b.toNat - 55
  else 99

/-- Hexadecimal digits. -/
def isHexDigit (b : UInt8) : Bool := digitValue b < 16

/-- The number with the given digits. -/
def ofDigits (base : Nat) (ds : List UInt8) : Nat :=
  ds.foldl (fun n d ↦ n * base + digitValue d) 0

/-- The floating-point number nearest to `m · 10^e`. -/
def nearestDecimal (m : Nat) (e : Int) : Float :=
  let length : Int := (m.log2 : Int) * 30103 / 100000
  if m = 0 ∨ length + e < -400 then 0.0
  else if length + e > 400 then 1.0 / 0.0
  else Float.ofScientific m (e < 0) e.natAbs

/-- The floating-point number nearest to `m · 2^e`. -/
def nearestBinary (m : Nat) (e : Int) : Float :=
  if m = 0 then 0.0
  else
    -- Keep 64 bits and a last one that records what was cut off.
    let drop := m.log2 - 64
    let kept := m / 2 ^ drop
    let m' := if m % 2 ^ drop = 0 then kept else kept ||| 1
    let e' := e + drop
    let top := m'.log2 + e'
    if top > 1100 then 1.0 / 0.0
    else if top < -1200 then 0.0
    else
      -- Round once, at the last place that the result has.
      let last := max (top - 52) (-1074)
      let c :=
        if last ≤ e' then m' * 2 ^ (e' - last).toNat
        else Decimal.roundDiv m' (2 ^ (last - e').toNat)
      (Float.ofNat c).scaleB last

/-- A sign in front. -/
def takeSign : List UInt8 → Bool × List UInt8
  | 45 :: r => (true, r)
  | 43 :: r => (false, r)
  | r => (false, r)

/-- An exponent marked by one of the two letters, and the rest; an unfinished one is no exponent. -/
def takeExponent (lower upper : UInt8) (bs : List UInt8) : Int × List UInt8 :=
  match bs with
  | b :: r =>
    if b = lower || b = upper then
      let (negative, r) := takeSign r
      let ds := r.takeWhile isDigit
      if ds.isEmpty then (0, bs)
      else
        let e : Int := ds.foldl (fun n d ↦ min (n * 10 + digitValue d) 1000000000) 0
        (if negative then -e else e, r.dropWhile isDigit)
    else (0, bs)
  | [] => (0, [])

/-- Digits with at most one point among them: the digits, how many stand behind the point, and the
rest. -/
def takeMantissa (p : UInt8 → Bool) (bs : List UInt8) : List UInt8 × Nat × List UInt8 :=
  let whole := bs.takeWhile p
  match bs.dropWhile p with
  | 46 :: r => (whole ++ r.takeWhile p, (r.takeWhile p).length, r.dropWhile p)
  | r => (whole, 0, r)

/-- The part of `bs` without white space at its ends. -/
def strip (bs : List UInt8) : List UInt8 :=
  ((bs.dropWhile isSpace).reverse.dropWhile isSpace).reverse

/-- An integer, in decimal if it fits, or in hexadecimal modulo `2^64`. -/
def readInt? (bs : List UInt8) : Option Int64 :=
  let (negative, r) := takeSign bs
  let value? : Option Int64 := match r with
    | 48 :: x :: ds =>
      if x = 120 || x = 88 then
        if !ds.isEmpty && ds.all isHexDigit then some (Int64.ofNat (ofDigits 16 ds)) else none
      else decimal negative r
    | _ => decimal negative r
  value?.map fun n ↦ if negative then -n else n
where
  /-- A decimal integer that fits, with one more place on the negative side. -/
  decimal (negative : Bool) (ds : List UInt8) : Option Int64 :=
    if ds.isEmpty || !ds.all isDigit then none
    else
      let n := ofDigits 10 ds
      if n < 2 ^ 63 || (negative && n = 2 ^ 63) then some (Int64.ofNat n) else none

/-- A floating-point number, in decimal or in hexadecimal. -/
def readFloat? (bs : List UInt8) : Option Float :=
  let (negative, r) := takeSign bs
  let value? : Option Float := match r with
    | 48 :: x :: ds =>
      if x = 120 || x = 88 then
        let (digits, places, rest) := takeMantissa isHexDigit ds
        let (e, rest) := takeExponent 112 80 rest
        if digits.isEmpty || !rest.isEmpty then none
        else some (nearestBinary (ofDigits 16 digits) (e - 4 * places))
      else decimal r
    | _ => decimal r
  value?.map fun x ↦ if negative then -x else x
where
  /-- A decimal floating-point number. -/
  decimal (r : List UInt8) : Option Float :=
    let (digits, places, rest) := takeMantissa isDigit r
    let (e, rest) := takeExponent 101 69 rest
    if digits.isEmpty || !rest.isEmpty then none
    else some (nearestDecimal (ofDigits 10 digits) (e - places))

/-- The number that a text stands for, with white space around it. -/
def read? (s : ByteArray) : Option Num :=
  let bs := strip s.toList
  match readInt? bs with
  | some n => some (int n)
  | none => (readFloat? bs).map float

end Num

end MacroStream.Script
