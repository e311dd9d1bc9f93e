/-!
# UTF-8 that may be broken

Scripts work on bytes, everything around them on text. `decode?` accepts exactly the well-formed
byte sequences; `decodeLossy` never fails and writes U+FFFD once for each maximal part of the input
that is the beginning of some character but not all of one.

A character is read by `readChar`: the first byte fixes the range of the second, which is where
over-long forms, surrogates and values above U+10FFFF are refused.
-/

namespace MacroStream.Text

/-- What the front of a byte list holds. -/
inductive Utf8Step where
  /-- A whole character, and how many bytes it took. -/
  | char (c : Char) (size : Nat)
  /-- Bytes that belong to no character, and how many of them form one broken piece. -/
  | broken (size : Nat)

/-- The six bits that a continuation byte carries, for a byte between `low` and `high`. -/
def tailBits? (low high b : UInt8) : Option Nat :=
  if low ≤ b && b ≤ high then some (b.toNat % 64) else none

/-- Reads a character whose first byte gave the bits `acc`, with `bounds` for the bytes that are to
follow and `size` bytes read so far. -/
def readTails (acc size : Nat) : List (UInt8 × UInt8) → List UInt8 → Utf8Step
  | [], _ => .char (Char.ofNat acc) size
  | _ :: _, [] => .broken size
  | (low, high) :: bounds, b :: bs =>
    match tailBits? low high b with
    | some bits => readTails (acc * 64 + bits) (size + 1) bounds bs
    | none => .broken size

/-- The bits of a first byte and the ranges of the bytes that follow it. -/
def leadByte? (b : UInt8) : Option (Nat × List (UInt8 × UInt8)) :=
  let n := b.toNat
  let any : UInt8 × UInt8 := (0x80, 0xBF)
  if n < 0x80 then some (n, [])
  else if n < 0xC2 then none
  else if n < 0xE0 then some (n % 32, [any])
  else if n = 0xE0 then some (0, [(0xA0, 0xBF), any])
  else if n = 0xED then some (13, [(0x80, 0x9F), any])
  else if n < 0xF0 then some (n % 16, [any, any])
  else if n = 0xF0 then some (0, [(0x90, 0xBF), any, any])
  else if n < 0xF4 then some (n % 8, [any, any, any])
  else if n = 0xF4 then some (4, [(0x80, 0x8F), any, any])
  else none

/-- Reads the character, or the broken piece, that starts with `b`. -/
def readChar (b : UInt8) (bs : List UInt8) : Utf8Step :=
  match leadByte? b with
  | some (bits, bounds) => readTails bits 1 bounds bs
  | none => .broken 1

/-- The characters of a byte list, `none` standing for one broken piece. -/
def utf8Pieces : List UInt8 → List (Option Char)
  | [] => []
  | b :: bs =>
    match readChar b bs with
    | .char c size => some c :: utf8Pieces (bs.drop (size - 1))
    | .broken size => none :: utf8Pieces (bs.drop (size - 1))
termination_by bs => bs.length
decreasing_by all_goals simp only [List.length_drop, List.length_cons]; omega

/-- The first broken piece, with the position of the first byte being `start`: where it begins, and
how many bytes it has; no number of bytes if it is the beginning of a character that the end cuts
off. -/
def firstBroken? (start : Nat) : List UInt8 → Option (Nat × Option Nat)
  | [] => none
  | b :: bs =>
    match readChar b bs with
    | .char _ size => firstBroken? (start + size) (bs.drop (size - 1))
    | .broken size =>
      let cutOff := bs.length + 1 = size &&
        (leadByte? b).any fun (_, bounds) ↦ size ≤ bounds.length
      some (start, if cutOff then none else some size)
termination_by bs => bs.length
decreasing_by simp only [List.length_drop, List.length_cons]; omega

/-- The text that `bytes` encode, when they are well formed. -/
def decode? (bytes : ByteArray) : Option String :=
  String.fromUTF8? bytes

/-- The text of `bytes`, with U+FFFD for every broken piece. -/
def decodeLossy (bytes : ByteArray) : String :=
  match decode? bytes with
  | some s => s
  | none => String.ofList ((utf8Pieces bytes.toList).map (·.getD '\uFFFD'))

end MacroStream.Text
