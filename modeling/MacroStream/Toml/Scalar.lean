import MacroStream.Json.Reader

/-!
# Keys and simple values of a settings file

Strings in four forms, whole numbers in four bases, floating-point numbers, truth values, dates and
times. A reader answers the value and the rest of its input, or nothing when the text is malformed.

A date or time is an object with one field of a reserved name, so that it is no text and no number
where one of these is wanted.
-/

namespace MacroStream.Toml

/-- Without the spaces and tabs in front. -/
def skipSpaces : List Char → List Char := List.dropWhile fun c ↦ c = ' ' || c = '\t'

/-- What follows a line end, if the text starts with one. -/
def afterNewline? : List Char → Option (List Char)
  | '\n' :: r => some r
  | '\r' :: '\n' :: r => some r
  | _ => none

/-- Characters that may stand in comments and literal strings. -/
def isPlain (c : Char) : Bool := c = '\t' || (0x20 ≤ c.toNat && c.toNat ≠ 0x7F)

/-- Characters of keys that need no quotes. -/
def isBare (c : Char) : Bool := c.isAlphanum || c = '_' || c = '-'

/-! ### Strings -/

/-- The number written with exactly `n` hexadecimal digits, added behind `acc`. -/
def readHex : Nat → Nat → List Char → Option (Nat × List Char)
  | 0, acc, cs => some (acc, cs)
  | _ + 1, _, [] => none
  | n + 1, acc, c :: cs =>
    match Json.hexValue? c with
    | some d => readHex n (acc * 16 + d) cs
    | none => none

/-- The character written with `n` hexadecimal digits. -/
def readCodePoint (n : Nat) (cs : List Char) : Option (Char × List Char) := do
  let (v, r) ← readHex n 0 cs
  if v < 0xD800 ∨ (0xDFFF < v ∧ v < 0x110000) then some (Char.ofNat v, r) else none

/-- The character that an escape stands for; `cs` follows the backslash. -/
def readEscape (cs : List Char) : Option (Char × List Char) :=
  match cs with
  | 'b' :: r => some ('\x08', r)
  | 't' :: r => some ('\t', r)
  | 'n' :: r => some ('\n', r)
  | 'f' :: r => some ('\x0c', r)
  | 'r' :: r => some ('\r', r)
  | '"' :: r => some ('"', r)
  | '\\' :: r => some ('\\', r)
  | 'u' :: r => readCodePoint 4 r
  | 'U' :: r => readCodePoint 8 r
  | _ => none

/-- The rest of a `"` string of one line, with the characters so far in reverse. -/
def readBasic : Nat → List Char → List Char → Option (String × List Char)
  | 0, _, _ => none
  | _ + 1, acc, '"' :: r => some (String.ofList acc.reverse, r)
  | n + 1, acc, '\\' :: r => do
    let (c, r) ← readEscape r
    readBasic n (c :: acc) r
  | n + 1, acc, c :: r => if isPlain c then readBasic n (c :: acc) r else none
  | _ + 1, _, [] => none

/-- The rest of a `'` string of one line. -/
def readLiteral (acc : List Char) : List Char → Option (String × List Char)
  | [] => none
  | '\'' :: r => some (String.ofList acc.reverse, r)
  | c :: r => if isPlain c then readLiteral (c :: acc) r else none

/-- How many quotes `q` stand in front, at most five. -/
def quoteRun (q : Char) (cs : List Char) : Nat := ((cs.take 5).takeWhile (· = q)).length

/-- Without spaces, tabs and line ends in front; `none` at a carriage return on its own. -/
def skipLineEnds : List Char → Option (List Char)
  | [] => some []
  | '\n' :: r => skipLineEnds r
  | '\r' :: '\n' :: r => skipLineEnds r
  | '\r' :: _ => none
  | c :: r => if c = ' ' || c = '\t' then skipLineEnds r else some (c :: r)

/-- The rest of a string in threefold quotes `q`; escapes are read when `escapes` holds. A line end
is one line feed. At the end up to two quotes belong to the string. -/
def readLong (q : Char) (escapes : Bool) : Nat → List Char → List Char → Option (String × List Char)
  | 0, _, _ => none
  | _ + 1, _, [] => none
  | n + 1, acc, c :: r =>
    if c = q then
      let run := quoteRun q (c :: r)
      if run < 3 then readLong q escapes n (List.replicate run q ++ acc) ((c :: r).drop run)
      else
        some (String.ofList (List.replicate (run - 3) q ++ acc).reverse, (c :: r).drop run)
    else if escapes && c = '\\' then
      match afterNewline? (skipSpaces r) with
      | some r' => do readLong q escapes n acc (← skipLineEnds r')
      | none => do
        let (e, r') ← readEscape r
        readLong q escapes n (e :: acc) r'
    else
      match afterNewline? (c :: r) with
      | some r' => readLong q escapes n ('\n' :: acc) r'
      | none => if isPlain c then readLong q escapes n (c :: acc) r else none

/-- Without one line end in front. -/
def dropNewline (cs : List Char) : List Char := (afterNewline? cs).getD cs

/-- A string in any of the four forms. -/
def readString (cs : List Char) : Option (String × List Char) :=
  let fuel := cs.length + 1
  match cs with
  | '"' :: '"' :: '"' :: r => readLong '"' true fuel [] (dropNewline r)
  | '\'' :: '\'' :: '\'' :: r => readLong '\'' false fuel [] (dropNewline r)
  | '"' :: r => readBasic fuel [] r
  | '\'' :: r => readLiteral [] r
  | _ => none

/-- One part of a key: bare, or a string of one line. -/
def readKeyPart (cs : List Char) : Option (String × List Char) :=
  match cs with
  | '"' :: r => readBasic (cs.length + 1) [] r
  | '\'' :: r => readLiteral [] r
  | _ =>
    let key := cs.takeWhile isBare
    if key.isEmpty then none else some (String.ofList key, cs.dropWhile isBare)

/-- A key: parts with dots between them, and spaces around the dots. -/
def readKey : Nat → List Char → Option (List String × List Char)
  | 0, _ => none
  | n + 1, cs => do
    let (k, r) ← readKeyPart (skipSpaces cs)
    match skipSpaces r with
    | '.' :: r' => do
      let (ks, r'') ← readKey n r'
      return (k :: ks, r'')
    | r' => return ([k], r')

/-! ### Numbers -/

/-- Digits for which `p` holds, with single underscores between them. -/
def readDigits (p : Char → Bool) : List Char → Option (List Char × List Char)
  | c :: '_' :: d :: r =>
    if p c && p d then do
      let (ds, r') ← readDigits p (d :: r)
      return (c :: ds, r')
    else if p c then some ([c], '_' :: d :: r)
    else none
  | c :: r =>
    if p c then
      match readDigits p r with
      | some (ds, r') => some (c :: ds, r')
      | none => some ([c], r)
    else none
  | [] => none

/-- The number with the given digits in a base. -/
def number (base : Nat) (digits : List Char) : Nat :=
  digits.foldl (fun n c ↦ n * base + (Json.hexValue? c).getD 0) 0

/-- A number with a base in front, such as `0xff`. -/
def readBased (base : Nat) (p : Char → Bool) (cs : List Char) : Option (Json × List Char) := do
  let (ds, r) ← readDigits p cs
  let n := number base ds
  if Json.fitsInt64 n then some (.int n, r) else none

/-- Decimal digits without a zero in front of others. -/
def readDecimal (cs : List Char) : Option (List Char × List Char) :=
  match cs with
  | '0' :: r => some (['0'], r)
  | _ => readDigits Char.isDigit cs

/-- The sign in front, and whether there is one. -/
def readSign (cs : List Char) : Bool × List Char :=
  match cs with
  | '-' :: r => (true, r)
  | '+' :: r => (false, r)
  | r => (false, r)

/-- An exponent, if there is one. -/
def readExponent (cs : List Char) : Option (Option Int × List Char) :=
  match cs with
  | 'e' :: r | 'E' :: r => do
    let (negative, r) := readSign r
    let (ds, r) ← readDigits Char.isDigit r
    let e : Int := number 10 ds
    return (some (if negative then -e else e), r)
  | r => some (none, r)

/-- The floating-point number nearest to `± m · 10^e`. -/
def nearestFloat (negative : Bool) (m : Nat) (e : Int) : Float :=
  let digits : Int := (Nat.toDigits 10 m).length
  let x :=
    if m = 0 ∨ digits + e < -400 then 0.0
    else if digits + e > 400 then 1.0 / 0.0
    else Float.ofScientific m (e < 0) e.natAbs
  if negative then -x else x

/-- A number without a base, or one of the words for infinity and NaN. -/
def readNumber (cs : List Char) : Option (Json × List Char) := do
  let (negative, r) := readSign cs
  match r with
  | 'i' :: 'n' :: 'f' :: r => return (.float (if negative then -1.0 / 0.0 else 1.0 / 0.0), r)
  | 'n' :: 'a' :: 'n' :: r => return (.float (0.0 / 0.0), r)
  | r =>
    let (whole, r) ← readDecimal r
    match r with
    | '.' :: r => do
      let (fraction, r) ← readDigits Char.isDigit r
      let (e, r) ← readExponent r
      let m := number 10 (whole ++ fraction)
      return (.float (nearestFloat negative m (e.getD 0 - fraction.length)), r)
    | r => do
      let (e, r) ← readExponent r
      match e with
      | some e => return (.float (nearestFloat negative (number 10 whole) e), r)
      | none =>
        let n : Int := if negative then -(number 10 whole : Int) else number 10 whole
        if Json.fitsInt64 n then some (.int n, r) else none

/-! ### Dates and times -/

/-- The number written with exactly `n` digits. -/
def fixedDigits (n : Nat) (cs : List Char) : Option (Nat × List Char) :=
  let ds := cs.take n
  if ds.length = n && ds.all Char.isDigit then some (number 10 ds, cs.drop n) else none

/-- How many days a month has. -/
def daysIn (year month : Nat) : Nat :=
  let leap := year % 4 = 0 ∧ (year % 100 ≠ 0 ∨ year % 400 = 0)
  if month = 2 then (if leap then 29 else 28)
  else if month = 4 ∨ month = 6 ∨ month = 9 ∨ month = 11 then 30
  else 31

/-- A date; answers only the rest. -/
def readDate (cs : List Char) : Option (List Char) := do
  let (year, r) ← fixedDigits 4 cs
  let '-' :: r := r | none
  let (month, r) ← fixedDigits 2 r
  let '-' :: r := r | none
  let (day, r) ← fixedDigits 2 r
  if 1 ≤ month ∧ month ≤ 12 ∧ 1 ≤ day ∧ day ≤ daysIn year month then some r else none

/-- A time of day; answers only the rest. -/
def readTime (cs : List Char) : Option (List Char) := do
  let (hour, r) ← fixedDigits 2 cs
  let ':' :: r := r | none
  let (minute, r) ← fixedDigits 2 r
  let ':' :: r := r | none
  let (second, r) ← fixedDigits 2 r
  if hour ≤ 23 ∧ minute ≤ 59 ∧ second ≤ 60 then
    match r with
    | '.' :: c :: r' => if c.isDigit then some (r'.dropWhile Char.isDigit) else none
    | r => some r
  else none

/-- A difference from universal time; answers only the rest. -/
def readOffset (cs : List Char) : Option (List Char) :=
  match cs with
  | 'Z' :: r | 'z' :: r => some r
  | '+' :: r | '-' :: r => do
    let (hour, r) ← fixedDigits 2 r
    let ':' :: r := r | none
    let (minute, r) ← fixedDigits 2 r
    if hour ≤ 23 ∧ minute ≤ 59 then some r else none
  | _ => none

/-- Whether a number would go on as a date or as a time. -/
def looksLikeDate (cs : List Char) : Bool :=
  match cs with
  | a :: b :: ':' :: _ => a.isDigit && b.isDigit
  | a :: b :: c :: d :: '-' :: _ => a.isDigit && b.isDigit && c.isDigit && d.isDigit
  | _ => false

/-- The name of the field of the object that stands for a date or a time. -/
def dateField : String := "$__toml_private_datetime"

/-- A date, a time, or both; answers only the rest. -/
def afterDateTime? (cs : List Char) : Option (List Char) :=
  match cs with
  | _ :: _ :: ':' :: _ => readTime cs
  | _ => do
    let r ← readDate cs
    match r with
    | d :: r' =>
      if d = 'T' ∨ d = 't' ∨ (d = ' ' ∧ (r'.head?.map Char.isDigit) = some true) then do
        let r'' ← readTime r'
        return (readOffset r'').getD r''
      else return r
    | [] => return r

/-- A date, a time, or both. -/
def readDateTime (cs : List Char) : Option (Json × List Char) := do
  let rest ← afterDateTime? cs
  let text := String.ofList (cs.take (cs.length - rest.length))
  return (.obj [(dateField, .str text)], rest)

end MacroStream.Toml
