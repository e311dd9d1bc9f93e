import MacroStream.Decimal.Rounded
import MacroStream.Script.Library.Arguments

/-!
# Formatted text

The directives of `string.format`: flags, a width, a precision and a letter that says how a value is
written. The directives are read and carried out here on plain values; only `%s` needs to look at
metatables.
-/

namespace MacroStream.Script.Library

open Action

namespace Format

/-- A directive. -/
structure Directive where
  /-- The directive as it was written, without the percent sign. -/
  text : List UInt8
  left : Bool
  plus : Bool
  space : Bool
  alternative : Bool
  zeros : Bool
  width : Nat
  precision : Option Nat
  letter : Char

/-- A byte of ASCII text. -/
def code (c : Char) : UInt8 := UInt8.ofNat c.toNat

/-- Up to two digits, and the rest. -/
def twoDigits (bs : List UInt8) : List UInt8 × List UInt8 :=
  let ds := (bs.take 2).takeWhile Num.isDigit
  (ds, bs.drop ds.length)

/-- Characters that may stand between the percent sign and the letter. -/
def isModifier (b : UInt8) : Bool := "-+ #0123456789.".toUTF8.data.toList.contains b

/-- The flags that a letter takes, and whether it takes a precision. -/
def accepted (letter : Char) : Option (String × Bool) :=
  match letter with
  | 'c' | 'p' => some ("-", false)
  | 's' => some ("-", true)
  | 'd' | 'i' => some ("-+0 ", true)
  | 'u' => some ("-0", true)
  | 'o' | 'x' | 'X' => some ("-#0", true)
  | 'a' | 'A' | 'f' | 'e' | 'E' | 'g' | 'G' => some ("-+ #0", true)
  | 'q' => some ("", true)
  | _ => none

/-- Why a directive is refused. -/
def refused (text : List UInt8) : ByteArray :=
  "invalid conversion '%".toUTF8 ++ ⟨text.toArray⟩ ++ "' to 'format'".toUTF8

/-- Why the modifiers of a directive are refused. -/
def misfit (text : List UInt8) : ByteArray :=
  "invalid conversion specification: '%".toUTF8 ++ ⟨text.toArray⟩ ++ "'".toUTF8

/-- Reads a directive behind its percent sign, and answers the rest of the format. -/
def directive (bs : List UInt8) : Except ByteArray (Directive × List UInt8) :=
  let modifiers := bs.takeWhile isModifier
  let rest := bs.drop modifiers.length
  if 21 ≤ modifiers.length then .error "invalid format string to 'format'".toUTF8
  else
    match rest with
    | [] => .error (refused modifiers)
    | l :: rest =>
      let text := modifiers ++ [l]
      let letter := Char.ofNat l.toNat
      match accepted letter with
      | none => .error (refused text)
      | some (flags, takesPrecision) =>
        let isFlag (b : UInt8) := flags.toUTF8.data.toList.contains b
        let given := modifiers.takeWhile isFlag
        let (width, behind) := twoDigits (modifiers.drop given.length)
        let (precision, behind) := match behind with
          | 46 :: more =>
            if takesPrecision then
              let (ds, more) := twoDigits more
              (some (Num.ofDigits 10 ds), more)
            else (none, behind)
          | _ => (none, behind)
        if letter = 'q' && !modifiers.isEmpty then
          .error "specifier '%q' cannot have modifiers".toUTF8
        else if !behind.isEmpty || width.head? = some 48 then .error (misfit text)
        else
          .ok (⟨text, given.contains (code '-'), given.contains (code '+'),
            given.contains (code ' '), given.contains (code '#'), given.contains (code '0'),
            Num.ofDigits 10 width, precision, letter⟩, rest)

/-! ### Writing values -/

/-- Text in a field of a certain width. -/
def pad (d : Directive) (s : ByteArray) : ByteArray :=
  let fill : ByteArray := ⟨(List.replicate (d.width - s.size) (code ' ')).toArray⟩
  if d.left then s ++ fill else fill ++ s

/-- A number with its sign in a field of a certain width; zeros stand behind the sign. -/
def padNumber (d : Directive) (zeros : Bool) (sign digits : List Char) : ByteArray :=
  let size := sign.length + digits.length
  let filled :=
    if zeros && !d.left then sign ++ List.replicate (d.width - size) '0' ++ digits
    else sign ++ digits
  pad d (String.ofList filled).toUTF8

/-- What stands in front of a number. -/
def signOf (d : Directive) (negative : Bool) : List Char :=
  if negative then ['-'] else if d.plus then ['+'] else if d.space then [' '] else []

/-- An integer. -/
def integer (d : Directive) (n : Int64) : ByteArray :=
  let atLeast (cs : List Char) :=
    let cs := if n = 0 && d.precision = some 0 then [] else cs
    Decimal.padZeros (d.precision.getD 0) cs
  let zeros := d.zeros && d.precision.isNone
  let word := n.toUInt64.toNat
  match d.letter with
  | 'x' =>
    let mark := if d.alternative && n ≠ 0 then ['0', 'x'] else []
    padNumber d zeros mark (atLeast (Nat.toDigits 16 word))
  | 'X' =>
    let mark := if d.alternative && n ≠ 0 then ['0', 'X'] else []
    padNumber d zeros mark (atLeast ((Nat.toDigits 16 word).map Char.toUpper))
  | 'o' =>
    let ds := atLeast (Nat.toDigits 8 word)
    padNumber d zeros [] (if d.alternative && ds.head? ≠ some '0' then '0' :: ds else ds)
  | 'u' => padNumber d zeros [] (atLeast (Nat.toDigits 10 word))
  | _ =>
    padNumber d zeros (signOf d (n < 0)) (atLeast (Nat.toDigits 10 n.toInt.natAbs))

/-- A floating-point number. -/
def float (d : Directive) (x : Float) : ByteArray :=
  let style : Decimal.DigitStyle := ⟨d.alternative, d.letter.isUpper⟩
  let shape (cs : String) := (if d.letter.isUpper then cs.map Char.toUpper else cs).toList
  match Decimal.Binary.ofFloat x with
  | .nan => padNumber d false (signOf d true) (shape "nan")
  | .infinite negative => padNumber d false (signOf d negative) (shape "inf")
  | .finite negative m q =>
    let places := d.precision.getD 6
    let sign := signOf d negative
    match d.letter with
    | 'e' | 'E' => padNumber d d.zeros sign (Decimal.exponential style places m q)
    | 'g' | 'G' => padNumber d d.zeros sign (Decimal.general style places m q)
    | 'a' | 'A' =>
      let cs := Decimal.hexadecimal style d.precision m q
      padNumber d d.zeros (sign ++ cs.take 2) (cs.drop 2)
    | _ => padNumber d d.zeros sign (Decimal.fixed style places m q)

/-- A byte string as it is written in a script. -/
def quotedBytes : List UInt8 → List UInt8
  | [] => []
  | b :: bs =>
    if b = 34 || b = 92 || b = 10 then 92 :: b :: quotedBytes bs
    else if b < 32 || b = 127 then
      let ds := Nat.toDigits 10 b.toNat
      let ds := if (bs.head?.map Num.isDigit).getD false then Decimal.padZeros 3 ds else ds
      92 :: ds.map code ++ quotedBytes bs
    else b :: quotedBytes bs

/-- A value as it is written in a script. -/
def literal? (v : Value) : Option ByteArray :=
  match v with
  | .str s => some ⟨(34 :: quotedBytes s.data.toList ++ [34]).toArray⟩
  | .int n =>
    some (if n = Int64.minValue then "0x8000000000000000" else Int.repr n.toInt).toUTF8
  | .float x =>
    some <| String.toUTF8 <| match Decimal.Binary.ofFloat x with
      | .nan => "(0/0)"
      | .infinite negative => if negative then "-1e9999" else "1e9999"
      | .finite negative m q =>
        String.ofList ((if negative then ['-'] else []) ++ Decimal.hexadecimal {} none m q)
  | .nil => some "nil".toUTF8
  | .bool b => some (if b then "true" else "false").toUTF8
  | _ => none

/-- Carries out a directive on argument `n`. -/
def write (d : Directive) (args : Args) (n : Nat) : Action ByteArray := do
  if args.length < n then badArgument n "no value"
  match d.letter with
  | 'c' => return pad d ⟨#[(← needInt args n).toUInt64.toUInt8]⟩
  | 'd' | 'i' | 'u' | 'o' | 'x' | 'X' => return integer d (← needInt args n)
  | 'p' =>
    let text := match arg args n with
      | .nil | .bool _ | .int _ | .float _ => "(null)"
      | v => v.addressText
    return pad d text.toUTF8
  | 'q' =>
    match literal? (arg args n) with
    | some s => return s
    | none => badArgument n "value has no literal form"
  | 's' =>
    let s ← toText (arg args n)
    if d.text.length = 1 then return s
    else if s.data.toList.contains 0 then badArgument n "string contains zeros"
    else if d.precision.isNone && 100 ≤ s.size then return s
    else
      match d.precision with
      | some p => return pad d (s.extract 0 p)
      | none => return pad d s
  | _ => return float d (← needFloat args n)

/-- Carries out a format from its current position on, with `n` as the next argument. -/
def run (args : Args) : Nat → Nat → ByteArray → List UInt8 → Action ByteArray
  | 0, _, acc, _ => return acc
  | _, _, acc, [] => return acc
  | fuel + 1, n, acc, 37 :: 37 :: rest => run args fuel n (acc.push 37) rest
  | fuel + 1, n, acc, 37 :: rest =>
    match directive rest with
    | .error m => do
      if args.length < n then badArgument n "no value" else failBytes m
    | .ok (d, rest) => do
      let s ← write d args n
      reserve s.size
      run args fuel (n + 1) (acc ++ s) rest
  | fuel + 1, n, acc, b :: rest => run args fuel n (acc.push b) rest

end Format

end MacroStream.Script.Library
