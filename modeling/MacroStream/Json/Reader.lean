import MacroStream.Json

/-!
# Reading JSON text

`Json.ofText?` accepts one value with blanks around it. A number without point and exponent that
fits 64 bits is whole; `-0` and everything else is floating-point. Its decimal digits are collected
into a 64-bit word, digits that no longer fit are dropped, and the word is scaled by one
multiplication or by divisions with powers of ten, so the result is the one that this arithmetic
gives, which is not always the nearest.

Every reader answers the rest of its input; the recursion is bounded by the length of the text.
-/

namespace MacroStream.Json

/-- The characters behind blanks. -/
def skipBlanks : List Char → List Char :=
  List.dropWhile fun c ↦ c = ' ' || c = '\n' || c = '\r' || c = '\t'

/-! ### Numbers -/

/-- The largest 64-bit word. -/
def maxWord : Nat := 18446744073709551615

/-- Appends digits to a word as long as it fits: the word, how many digits were taken, how many were
left out, and the rest. -/
def takeDigits (word taken dropped : Nat) : List Char → Nat × Nat × Nat × List Char
  | [] => (word, taken, dropped, [])
  | c :: cs =>
    if c.isDigit then
      let next := word * 10 + (c.toNat - 48)
      if dropped = 0 && next ≤ maxWord then takeDigits next (taken + 1) 0 cs
      else takeDigits word taken (dropped + 1) cs
    else (word, taken, dropped, c :: cs)

/-- The power of ten, rounded. -/
def powerOfTen (e : Nat) : Float := Float.ofScientific 1 false e

/-- `f · 10^e`, in steps of at most 308 places; `none` when it is too large. -/
def scaleFloat : Nat → Float → Int → Option Float
  | 0, f, _ => some f
  | fuel + 1, f, e =>
    if e.natAbs ≤ 308 then
      if e ≥ 0 then
        let r := f * powerOfTen e.toNat
        if r.isInf then none else some r
      else some (f / powerOfTen e.natAbs)
    else if f == 0.0 then some f
    else if e ≥ 0 then none
    else scaleFloat fuel (f / powerOfTen 308) (e + 308)

/-- The floating-point number `± word · 10^e`. -/
def makeFloat (negative : Bool) (word : Nat) (e : Int) : Option Json := do
  let f ← scaleFloat (e.natAbs / 308 + 2) word.toUInt64.toFloat e
  return float (if negative then -f else f)

/-- An exponent behind `e`, added to `e₀`. -/
def readExponent (negative : Bool) (word : Nat) (e₀ : Int) (cs : List Char) :
    Option (Json × List Char) := do
  let (down, cs) := match cs with
    | '-' :: r => (true, r)
    | '+' :: r => (false, r)
    | r => (false, r)
  let digits := cs.takeWhile Char.isDigit
  let rest := cs.dropWhile Char.isDigit
  if digits.isEmpty then none
  let e : Int := digits.foldl (fun n c ↦ min (n * 10 + (c.toNat - 48)) 4294967296) 0
  return (← makeFloat negative word (if down then e₀ - e else e₀ + e), rest)

/-- What may follow the digits of a number: an exponent, or its end. -/
def finishFloat (negative : Bool) (word : Nat) (e : Int) (cs : List Char) :
    Option (Json × List Char) :=
  match cs with
  | 'e' :: r | 'E' :: r => readExponent negative word e r
  | r => do return (← makeFloat negative word e, r)

/-- A number behind its sign. -/
def readNumber (negative : Bool) (cs : List Char) : Option (Json × List Char) := do
  let (word, taken, dropped, rest) := takeDigits 0 0 0 cs
  if taken = 0 then none
  if taken + dropped > 1 && cs.head? = some '0' then none
  match rest with
  | '.' :: r =>
    let (word', taken', _, rest') :=
      if dropped = 0 then takeDigits word 0 0 r else (word, 0, 0, r.dropWhile Char.isDigit)
    if (r.head?.map Char.isDigit) ≠ some true then none
    finishFloat negative word' ((dropped : Int) - taken') rest'
  | 'e' :: _ | 'E' :: _ => finishFloat negative word dropped rest
  | r =>
    if dropped ≠ 0 then finishFloat negative word dropped r
    else if !negative then some (int word, r)
    else if word = 0 ∨ 9223372036854775808 < word then do
      return (← makeFloat true word 0, r)
    else some (int (-word), r)

/-! ### Strings -/

/-- The value of a hexadecimal digit. -/
def hexValue? (c : Char) : Option Nat :=
  if c.isDigit then some (c.toNat - 48)
  else if 'a' ≤ c && c ≤ 'f' then some (c.toNat - 87)
  else if 'A' ≤ c && c ≤ 'F' then some (c.toNat - 55)
  else none

/-- The number written with four hexadecimal digits. -/
def hex4? (a b c d : Char) : Option Nat := do
  return (((← hexValue? a) * 16 + (← hexValue? b)) * 16 + (← hexValue? c)) * 16 + (← hexValue? d)

/-- The rest of a quoted string, with the characters read so far in reverse. -/
def readString (acc : List Char) : List Char → Option (String × List Char)
  | [] => none
  | '"' :: cs => some (String.ofList acc.reverse, cs)
  | '\\' :: 'u' :: a :: b :: c :: d :: '\\' :: 'u' :: a' :: b' :: c' :: d' :: cs =>
    match hex4? a b c d, hex4? a' b' c' d' with
    | some n, some n' =>
      if 0xD800 ≤ n && n < 0xDC00 && 0xDC00 ≤ n' && n' < 0xE000 then
        readString (Char.ofNat (0x10000 + (n - 0xD800) * 0x400 + (n' - 0xDC00)) :: acc) cs
      else readString (Char.ofNat n :: acc) ('\\' :: 'u' :: a' :: b' :: c' :: d' :: cs)
    | _, _ => none
  | '\\' :: 'u' :: a :: b :: c :: d :: cs =>
    match hex4? a b c d with
    | some n => readString (Char.ofNat n :: acc) cs
    | none => none
  | '\\' :: c :: cs =>
    match c with
    | '"' => readString ('"' :: acc) cs
    | '\\' => readString ('\\' :: acc) cs
    | '/' => readString ('/' :: acc) cs
    | 'b' => readString ('\x08' :: acc) cs
    | 'f' => readString ('\x0c' :: acc) cs
    | 'n' => readString ('\n' :: acc) cs
    | 'r' => readString ('\r' :: acc) cs
    | 't' => readString ('\t' :: acc) cs
    | _ => none
  | c :: cs => readString (c :: acc) cs

/-! ### Values -/

mutual

/-- One value, with blanks before it. -/
def readValue : Nat → List Char → Option (Json × List Char)
  | 0, _ => none
  | fuel + 1, cs =>
    match skipBlanks cs with
    | 'n' :: 'u' :: 'l' :: 'l' :: r => some (null, r)
    | 't' :: 'r' :: 'u' :: 'e' :: r => some (bool true, r)
    | 'f' :: 'a' :: 'l' :: 's' :: 'e' :: r => some (bool false, r)
    | '"' :: r => (readString [] r).map fun (s, r) ↦ (str s, r)
    | '[' :: r =>
      match skipBlanks r with
      | ']' :: r => some (arr [], r)
      | r => readItems fuel [] r
    | '\x7b' :: r =>
      match skipBlanks r with
      | '\x7d' :: r => some (obj [], r)
      | r => readEntries fuel [] r
    | '-' :: r => readNumber true r
    | r => readNumber false r

/-- The items of an array up to its end, with those read so far in reverse. -/
def readItems : Nat → List Json → List Char → Option (Json × List Char)
  | 0, _, _ => none
  | fuel + 1, acc, cs => do
    let (v, r) ← readValue fuel cs
    match skipBlanks r with
    | ',' :: r => readItems fuel (v :: acc) r
    | ']' :: r => some (arr (v :: acc).reverse, r)
    | _ => none

/-- The fields of an object up to its end, with those read so far in reverse. -/
def readEntries : Nat → List (String × Json) → List Char → Option (Json × List Char)
  | 0, _, _ => none
  | fuel + 1, acc, cs => do
    let '"' :: r := skipBlanks cs | none
    let (k, r) ← readString [] r
    let ':' :: r := skipBlanks r | none
    let (v, r) ← readValue fuel r
    match skipBlanks r with
    | ',' :: r => readEntries fuel ((k, v) :: acc) r
    | '\x7d' :: r => some (obj ((k, v) :: acc).reverse, r)
    | _ => none

end

/-- The value that a text holds. -/
def ofText? (s : String) : Option Json :=
  let cs := s.toList
  match readValue (cs.length + 1) cs with
  | some (v, rest) => if (skipBlanks rest).isEmpty then some v else none
  | none => none

end MacroStream.Json
