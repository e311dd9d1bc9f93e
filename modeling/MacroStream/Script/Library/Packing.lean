import MacroStream.Script.Library.Arguments
import MacroStream.Script.Pattern

/-!
# Binary data

Values packed into byte strings by a format: integers of up to sixteen bytes in either byte order,
floating-point numbers, and strings of fixed size, with their length in front, or ended by a zero.
Items may be aligned.
-/

namespace MacroStream.Script.Library

open Action

namespace Packing

/-- An item of a format. -/
inductive Item where
  | signed (size : Nat)
  | unsigned (size : Nat)
  | float32
  | float64
  | chars (size : Nat)
  /-- A string with its length in front. -/
  | counted (size : Nat)
  | zeroEnded
  | padding
  /-- Goes on at a multiple of a size. -/
  | align
  | nothing
  deriving DecidableEq

/-- How items are laid out. -/
structure Layout where
  little : Bool := true
  maxAlign : Nat := 1

/-- An item with the bytes it takes and the alignment it wants. -/
structure Step where
  item : Item
  size : Nat
  align : Nat

/-- A number in front of a format, and the rest. -/
def number (default : Nat) (bs : List UInt8) : Nat × List UInt8 :=
  let ds := (bs.takeWhile Num.isDigit).take 18
  if ds.isEmpty then (default, bs) else (Num.ofDigits 10 ds, bs.drop ds.length)

/-- The number of bytes of an integer, and the rest of the format. -/
def sizeOf (default : Nat) (bs : List UInt8) : Except String (Nat × List UInt8) :=
  let (n, rest) := number default bs
  if n = 0 || 16 < n then
    .error ("integral size (" ++ Nat.repr n ++ ") out of limits [1,16]")
  else .ok (n, rest)

/-- The next item of a format, without its alignment. -/
def item (l : Layout) (b : UInt8) (bs : List UInt8) :
    Except String (Item × Nat × Layout × List UInt8) :=
  match Char.ofNat b.toNat with
  | 'b' => .ok (.signed 1, 1, l, bs)
  | 'B' => .ok (.unsigned 1, 1, l, bs)
  | 'h' => .ok (.signed 2, 2, l, bs)
  | 'H' => .ok (.unsigned 2, 2, l, bs)
  | 'l' | 'j' => .ok (.signed 8, 8, l, bs)
  | 'L' | 'J' | 'T' => .ok (.unsigned 8, 8, l, bs)
  | 'f' => .ok (.float32, 4, l, bs)
  | 'n' | 'd' => .ok (.float64, 8, l, bs)
  | 'i' => do
    let (n, rest) ← sizeOf 4 bs
    return (.signed n, n, l, rest)
  | 'I' => do
    let (n, rest) ← sizeOf 4 bs
    return (.unsigned n, n, l, rest)
  | 's' => do
    let (n, rest) ← sizeOf 8 bs
    return (.counted n, n, l, rest)
  | 'c' =>
    if (bs.head?.map Num.isDigit).getD false then
      let (n, rest) := number 0 bs
      .ok (.chars n, n, l, rest)
    else .error "missing size for format option 'c'"
  | 'z' => .ok (.zeroEnded, 0, l, bs)
  | 'x' => .ok (.padding, 1, l, bs)
  | 'X' => .ok (.align, 0, l, bs)
  | ' ' => .ok (.nothing, 0, l, bs)
  | '<' | '=' => .ok (.nothing, 0, { l with little := true }, bs)
  | '>' => .ok (.nothing, 0, { l with little := false }, bs)
  | '!' => do
    let (n, rest) ← sizeOf 8 bs
    return (.nothing, 0, { l with maxAlign := n }, rest)
  | c => .error ("invalid format option '" ++ String.singleton c ++ "'")

/-- Whether a number is a power of two. -/
def isPowerOfTwo (n : Nat) : Bool := n ≠ 0 && n &&& (n - 1) = 0

/-- How many bytes stand in front of an item of size `size` at position `at'`. -/
def paddingFor (l : Layout) (size at' : Nat) : Except String Nat :=
  if size ≤ 1 then .ok 0
  else
    let a := min size l.maxAlign
    if isPowerOfTwo a then .ok ((a - at' % a) % a)
    else .error "format asks for alignment not power of 2"

/-- The next step of a format at position `at'`: the item, the bytes in front of it, its size. -/
def step (l : Layout) (at' : Nat) (b : UInt8) (bs : List UInt8) :
    Except String (Item × Nat × Nat × Layout × List UInt8) := do
  let (it, size, l, rest) ← item l b bs
  match it with
  | .align =>
    match rest with
    | [] => .error "invalid next option for option 'X'"
    | b' :: bs' =>
      let (next, n, l, rest) ← item l b' bs'
      if n = 0 || next matches .chars _ then .error "invalid next option for option 'X'"
      else return (.nothing, ← paddingFor l n at', 0, l, rest)
  | .signed _ | .unsigned _ | .float32 | .float64 | .counted _ =>
    return (it, ← paddingFor l size at', size, l, rest)
  | _ => return (it, 0, size, l, rest)

/-- The lowest `n` bytes of an integer. -/
def bytesOfInt (l : Layout) (n : Nat) (v : Int) : List UInt8 :=
  let bytes := (List.range n).map fun i ↦ UInt8.ofNat ((v / 256 ^ i) % 256).toNat
  if l.little then bytes else bytes.reverse

/-- The number of some bytes. -/
def natOfBytes (l : Layout) (bs : List UInt8) : Nat :=
  let bs := if l.little then bs.reverse else bs
  bs.foldl (fun n b ↦ n * 256 + b.toNat) 0

/-- Packs arguments from number `n` on. -/
def pack (args : Args) : Nat → Layout → Nat → List UInt8 → List UInt8 → Action ByteArray
  | 0, _, _, acc, _ => return ⟨acc.reverse.toArray⟩
  | _, _, _, acc, [] => return ⟨acc.reverse.toArray⟩
  | fuel + 1, l, n, acc, b :: bs =>
    match step l acc.length b bs with
    | .error m => fail m
    | .ok (it, gap, size, l, rest) => do
      let acc := List.replicate gap 0 ++ acc
      let add (bytes : List UInt8) := bytes.reverse ++ acc
      match it with
      | .signed k => do
        let v ← needInt args n
        if k < 8 && !(-(2 ^ (8 * k - 1) : Int) ≤ v.toInt && v.toInt < 2 ^ (8 * k - 1)) then
          badArgument n "integer overflow"
        pack args fuel l (n + 1) (add (bytesOfInt l k v.toInt)) rest
      | .unsigned k => do
        let v ← needInt args n
        if k < 8 && !(v.toUInt64.toNat < 2 ^ (8 * k)) then badArgument n "unsigned overflow"
        pack args fuel l (n + 1) (add (bytesOfInt l k v.toUInt64.toNat)) rest
      | .float32 => do
        let x ← needFloat args n
        pack args fuel l (n + 1) (add (bytesOfInt l 4 x.toFloat32.toBits.toNat)) rest
      | .float64 => do
        let x ← needFloat args n
        pack args fuel l (n + 1) (add (bytesOfInt l 8 x.toBits.toNat)) rest
      | .chars k => do
        let s ← needBytes args n
        if k < s.size then badArgument n "string longer than given size"
        pack args fuel l (n + 1)
          (add (s.data.toList ++ List.replicate (k - s.size) 0)) rest
      | .counted k => do
        let s ← needBytes args n
        if k < 8 && 2 ^ (8 * k) ≤ s.size then
          badArgument n "string length does not fit in given size"
        pack args fuel l (n + 1) (add (bytesOfInt l k s.size ++ s.data.toList)) rest
      | .zeroEnded => do
        let s ← needBytes args n
        if s.data.toList.contains 0 then badArgument n "string contains zeros"
        pack args fuel l (n + 1) (add (s.data.toList ++ [0])) rest
      | .padding | .align | .nothing =>
        pack args fuel l n (List.replicate size 0 ++ acc) rest

/-- How many bytes a format packs into. -/
def packedSize : Nat → Layout → Nat → List UInt8 → Except String Nat
  | 0, _, total, _ => .ok total
  | _, _, total, [] => .ok total
  | fuel + 1, l, total, b :: bs => do
    let (it, gap, size, l, rest) ← step l total b bs
    match it with
    | .counted _ | .zeroEnded => .error "variable-length format"
    | _ =>
      let total := total + gap + size
      if 2147483647 < total then .error "format result too large"
      else packedSize fuel l total rest

/-- Reads values out of bytes from position `pos` on. -/
def unpack (s : ByteArray) : Nat → Layout → Nat → List Value → List UInt8 → Action (List Value)
  | 0, _, pos, acc, _ => return (.int (Int64.ofNat (pos + 1)) :: acc).reverse
  | _, _, pos, acc, [] => return (.int (Int64.ofNat (pos + 1)) :: acc).reverse
  | fuel + 1, l, pos, acc, b :: bs =>
    match step l pos b bs with
    | .error m => fail m
    | .ok (it, gap, size, l, rest) => do
      if s.size < pos + gap + size then badArgument 2 "data string too short"
      let pos := pos + gap
      let bytes := (s.extract pos (pos + size)).data.toList
      let n := natOfBytes l bytes
      match it with
      | .signed k => do
        let v : Int := if 2 ^ (8 * k - 1) ≤ n then (n : Int) - 2 ^ (8 * k) else n
        if 8 < k && !(Json.fitsInt64 v) then
          fail (Nat.repr k ++ "-byte integer does not fit into Lua Integer")
        unpack s fuel l (pos + size) (.int v.toInt64 :: acc) rest
      | .unsigned k => do
        if 2 ^ 64 ≤ n then fail (Nat.repr k ++ "-byte integer does not fit into Lua Integer")
        unpack s fuel l (pos + size) (.int (Int64.ofNat n) :: acc) rest
      | .float32 =>
        unpack s fuel l (pos + size) (.float (Float32.ofBits n.toUInt32).toFloat :: acc) rest
      | .float64 => unpack s fuel l (pos + size) (.float (Float.ofBits n.toUInt64) :: acc) rest
      | .chars _ => unpack s fuel l (pos + size) (.str ⟨bytes.toArray⟩ :: acc) rest
      | .counted _ => do
        if s.size < pos + size + n then badArgument 2 "data string too short"
        unpack s fuel l (pos + size + n)
          (.str (s.extract (pos + size) (pos + size + n)) :: acc) rest
      | .zeroEnded => do
        let text := (s.extract pos s.size).data.toList.takeWhile (· ≠ 0)
        if s.size ≤ pos + text.length then badArgument 2 "unfinished string for format 'z'"
        unpack s fuel l (pos + text.length + 1) (.str ⟨text.toArray⟩ :: acc) rest
      | .padding | .align | .nothing => unpack s fuel l (pos + size) acc rest

end Packing

end MacroStream.Script.Library
