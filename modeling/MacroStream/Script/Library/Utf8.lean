import MacroStream.Script.Lexer
import MacroStream.Script.Library.Strings

/-!
# Functions on UTF-8 strings

Code points go up to `2^31 - 1`; unless a function is told to be lax, surrogates and everything
above U+10FFFF are refused.
-/

namespace MacroStream.Script.Library

open Action

namespace CodePoint

/-- Bytes that continue a character. -/
def isTail (b : UInt8) : Bool := b &&& 0xC0 = 0x80

/-- The bits of the tails of a character: how many were read, and their value. -/
def tails (s : ByteArray) (i : Nat) : Nat → Nat → Nat → Option Nat
  | 0, _, acc => some acc
  | n + 1, k, acc =>
    let b := byteAt s (i + k)
    if isTail b then tails s i n (k + 1) (acc * 64 + b.toNat % 64) else none

/-- How many tails a first byte asks for, the value of its own bits, and the least value that needs
as many. -/
def lead? (b : UInt8) : Option (Nat × Nat × Nat) :=
  let n := b.toNat
  if n < 0x80 then some (0, n, 0)
  else if n < 0xC0 then none
  else if n < 0xE0 then some (1, n % 32, 0x80)
  else if n < 0xF0 then some (2, n % 16, 0x800)
  else if n < 0xF8 then some (3, n % 8, 0x10000)
  else if n < 0xFC then some (4, n % 4, 0x200000)
  else if n < 0xFE then some (5, n % 2, 0x4000000)
  else none

/-- The code point at a position, and how many bytes it takes. -/
def decode? (s : ByteArray) (i : Nat) (lax : Bool) : Option (Nat × Nat) := do
  let (count, bits, least) ← lead? (byteAt s i)
  let c ← tails s i count 1 bits
  if c < least then none
  else if !lax && (0x10FFFF < c || (0xD800 ≤ c && c ≤ 0xDFFF)) then none
  else some (c, count + 1)

/-- The pattern that matches one character. -/
def charPattern : ByteArray :=
  ⟨#[91, 0, 45, 127, 194, 45, 253, 93, 91, 128, 45, 191, 93, 42]⟩

end CodePoint

/-- A position that may count from the end of `n` bytes; 0 if it is before the start. -/
def relative (pos : Int64) (n : Nat) : Int :=
  if 0 ≤ pos then pos.toInt
  else if pos.toInt < -(n : Int) then 0
  else n + pos.toInt + 1

/-- The code points from position `i` up to position `e`, counted from 0. -/
def codePoints (s : ByteArray) (lax : Bool) (e : Nat) :
    Nat → Nat → List Value → Action (List Value)
  | 0, _, acc => return acc.reverse
  | fuel + 1, i, acc =>
    if e ≤ i then return acc.reverse
    else
      match CodePoint.decode? s i lax with
      | some (c, n) => codePoints s lax e fuel (i + n) (.int (Int64.ofNat c) :: acc)
      | none => fail "invalid UTF-8 code"

/-- How many characters start between `i` and `e`, counted from 0; or where a broken one starts. -/
def countCodes (s : ByteArray) (lax : Bool) (e : Int) : Nat → Nat → Nat → Except Nat Nat
  | 0, _, n => .ok n
  | fuel + 1, i, n =>
    if e < i then .ok n
    else
      match CodePoint.decode? s i lax with
      | some (_, k) => countCodes s lax e fuel (i + k) (n + 1)
      | none => .error i

/-- Goes back to the start of a character. -/
def backToStart (s : ByteArray) : Nat → Nat
  | 0 => 0
  | i + 1 => if CodePoint.isTail (byteAt s (i + 1)) then backToStart s i else i + 1

/-- Goes on over continuing bytes. -/
def overTails (s : ByteArray) : Nat → Nat → Nat
  | 0, i => i
  | fuel + 1, i => if CodePoint.isTail (byteAt s i) then overTails s fuel (i + 1) else i

/-- Goes back by `n` characters. -/
def goBack (s : ByteArray) : Nat → Nat → Option Nat
  | 0, i => some i
  | _ + 1, 0 => none
  | n + 1, i + 1 => goBack s n (backToStart s i)

/-- Goes on by `n` characters. -/
def goOn (s : ByteArray) : Nat → Nat → Option Nat
  | 0, i => some i
  | n + 1, i =>
    if s.size ≤ i then none else goOn s n (overTails s (s.size + 1) (i + 1))

/-- The start of a character, counted from position `i`. -/
def offsetOf (s : ByteArray) (n : Int64) (i : Nat) : Action (List Value) := do
  let found ←
    if n = 0 then pure (some (backToStart s i))
    else if CodePoint.isTail (byteAt s i) then fail "initial position is a continuation byte"
    else if n < 0 then pure (goBack s (-n).toNatClampNeg i)
    else pure (goOn s (n - 1).toNatClampNeg i)
  match found with
  | some i => return [.int (Int64.ofNat (i + 1))]
  | none => return [.nil]

/-- The bytes of characters. -/
def encodeAll (args : Args) : Nat → List Value → ByteArray → Action ByteArray
  | _, [], acc => return acc
  | n, _ :: rest, acc => do
    let c ← needInt args n
    if c < 0 || 0x7FFFFFFF < c then badArgument n "value out of range"
    encodeAll args (n + 1) rest (acc ++ ⟨(Lexer.utf8Bytes c.toNatClampNeg).toArray⟩)

/-- Runs a function on UTF-8 strings. -/
def utf8 (f : Utf8Function) (args : Args) : Action (List Value) :=
  match f with
  | .char => do return [.str (← encodeAll args 1 args .empty)]
  | .codepoint => do
    let s ← needBytes args 1
    let i ← optInt args 2 1
    let first := relative i s.size
    let j ← optInt args 3 (Int64.ofInt first)
    let last := relative j s.size
    if first < 1 then badArgument 2 "out of bounds"
    if (s.size : Int) < last then badArgument 3 "out of bounds"
    codePoints s (arg args 4).isTruthy last.toNat (s.size + 1) (first - 1).toNat []
  | .len => do
    let s ← needBytes args 1
    let first := relative (← optInt args 2 1) s.size
    let last := relative (← optInt args 3 (-1)) s.size
    if first < 1 || (s.size : Int) < first - 1 then
      badArgument 2 "initial position out of bounds"
    if (s.size : Int) ≤ last - 1 then badArgument 3 "final position out of bounds"
    match countCodes s (arg args 4).isTruthy (last - 1) (s.size + 1) (first - 1).toNat 0 with
    | .ok n => return [.int (Int64.ofNat n)]
    | .error i => return [.nil, .int (Int64.ofNat (i + 1))]
  | .offset => do
    let s ← needBytes args 1
    let n ← needInt args 2
    let i := relative (← optInt args 3 (if 0 < n then 1 else Int64.ofNat (s.size + 1))) s.size
    if i < 1 || (s.size : Int) < i - 1 then badArgument 3 "position out of bounds"
    offsetOf s n (i - 1).toNat
  | .codes => do
    let s ← needBytes args 1
    if CodePoint.isTail (byteAt s 0) then badArgument 1 "invalid UTF-8 code"
    return [.primitive (.utf8 (.codesStep (arg args 2).isTruthy)), arg args 1, .int 0]
  | .codesStep lax => do
    let s ← needBytes args 1
    let n := (← needInt args 2).toNatClampNeg
    let i := if n < s.size then overTails s (s.size + 1) n else n
    if s.size ≤ i then return []
    else
      match CodePoint.decode? s i lax with
      | some (c, k) =>
        if CodePoint.isTail (byteAt s (i + k)) then fail "invalid UTF-8 code"
        else return [.int (Int64.ofNat (i + 1)), .int (Int64.ofNat c)]
      | none => fail "invalid UTF-8 code"

end MacroStream.Script.Library
