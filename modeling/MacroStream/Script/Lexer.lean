import MacroStream.Script.Token

/-!
# Reading tokens

`lex` reads a whole chunk. White space and comments separate tokens and are dropped. A chunk with a
malformed token has the tokens before it and then the fault, because a fault of the grammar in front
of it counts first.

Line ends are line feeds, carriage returns, and either pair of the two; inside strings each of them
is one line feed. Within the rules of a token the input is a list of bytes, and what is read so far
is kept in reverse for the messages.
-/

namespace MacroStream.Script.Lexer

/-- Letters and the underscore. -/
def isLetter (b : UInt8) : Bool := (97 ≤ b && b ≤ 122) || (65 ≤ b && b ≤ 90) || b = 95

/-- Characters of names. -/
def isNameByte (b : UInt8) : Bool := isLetter b || Num.isDigit b

/-- Whether a byte ends a line. -/
def isLineEnd (b : UInt8) : Bool := b = 10 || b = 13

/-- What follows a line end that starts with `b`. -/
def afterLineEnd (b : UInt8) (bs : List UInt8) : List UInt8 :=
  match bs with
  | c :: r => if isLineEnd c && c ≠ b then r else bs
  | [] => []

/-- Bytes kept in reverse, as a byte string. -/
def collect (rev : List UInt8) : ByteArray := ⟨rev.reverse.toArray⟩

/-- The result of reading a part of a token. -/
abbrev Scan (α : Type) := Except SyntaxFault α

/-! ### Long brackets -/

/-- Equal signs and a second bracket behind an opening `[`: how many signs, and the rest. -/
def openLong? (bs : List UInt8) : Option (Nat × List UInt8) :=
  let level := (bs.takeWhile (· = 61)).length
  match bs.drop level with
  | 91 :: r => some (level, r)
  | _ => none

/-- What follows a closing long bracket, behind its first `]`. -/
def closeLong? (level : Nat) (bs : List UInt8) : Option (List UInt8) :=
  if (bs.takeWhile (· = 61)).length = level then
    match bs.drop level with
    | 93 :: r => some r
    | _ => none
  else none

/-- The content of a long bracket in reverse, the line behind it, and the rest. -/
def longBody (what : String) (start level : Nat) :
    Nat → Nat → List UInt8 → List UInt8 → Scan (List UInt8 × Nat × List UInt8)
  | 0, line, _, _ => .error ⟨line, ByteArray.empty⟩
  | _ + 1, line, _, [] =>
    .error (.near line
      ("unfinished long " ++ what ++ " (starting at line " ++ Nat.repr start ++ ")") .eof .empty)
  | n + 1, line, acc, b :: bs =>
    if b = 93 then
      match closeLong? level bs with
      | some r => .ok (acc, line, r)
      | none => longBody what start level n line (b :: acc) bs
    else if isLineEnd b then
      longBody what start level n (line + 1) (10 :: acc) (afterLineEnd b bs)
    else longBody what start level n line (b :: acc) bs

/-- A long bracket behind its opening; a line end that follows the opening is dropped. -/
def readLong (what : String) (level line : Nat) (bs : List UInt8) :
    Scan (List UInt8 × Nat × List UInt8) :=
  match bs with
  | b :: r =>
    if isLineEnd b then longBody what line level (bs.length + 1) (line + 1) [] (afterLineEnd b r)
    else longBody what line level (bs.length + 1) line [] bs
  | [] => longBody what line level 1 line [] []

/-! ### Quoted strings -/

/-- Fails inside a string, with what was read of it and the byte that does not fit. -/
def escapeFault {α : Type} (line : Nat) (message : String) (text bs : List UInt8) : Scan α :=
  .error (.near line message (.str .empty) (collect (bs.take 1 ++ text)))

/-- The UTF-8 form of a number of up to 31 bits. -/
def utf8Bytes (n : Nat) : List UInt8 :=
  let tail (shift : Nat) : UInt8 := (0x80 + n / 2 ^ shift % 64).toUInt8
  if n < 0x80 then [n.toUInt8]
  else if n < 0x800 then [(0xC0 + n / 2 ^ 6).toUInt8, tail 0]
  else if n < 0x10000 then [(0xE0 + n / 2 ^ 12).toUInt8, tail 6, tail 0]
  else if n < 0x200000 then [(0xF0 + n / 2 ^ 18).toUInt8, tail 12, tail 6, tail 0]
  else if n < 0x4000000 then [(0xF8 + n / 2 ^ 24).toUInt8, tail 18, tail 12, tail 6, tail 0]
  else [(0xFC + n / 2 ^ 30).toUInt8, tail 24, tail 18, tail 12, tail 6, tail 0]

/-- Two hexadecimal digits; `text` is what was read, up to the `x`. -/
def hexEscape (line : Nat) (text bs : List UInt8) : Scan (UInt8 × List UInt8) :=
  match bs with
  | a :: r =>
    if Num.isHexDigit a then
      match r with
      | b :: r' =>
        if Num.isHexDigit b then .ok ((Num.ofDigits 16 [a, b]).toUInt8, r')
        else escapeFault line "hexadecimal digit expected" (a :: text) r
      | [] => escapeFault line "hexadecimal digit expected" (a :: text) []
    else escapeFault line "hexadecimal digit expected" text bs
  | [] => escapeFault line "hexadecimal digit expected" text []

/-- Hexadecimal digits in braces, added behind `acc`; `text` is what was read. -/
def codeDigits (line acc : Nat) (text : List UInt8) : List UInt8 → Scan (Nat × List UInt8)
  | [] => escapeFault line "missing '\x7d'" text []
  | b :: bs =>
    if Num.isHexDigit b then
      if acc ≤ 0x7FFFFFF then codeDigits line (acc * 16 + Num.digitValue b) (b :: text) bs
      else escapeFault line "UTF-8 value too large" text (b :: bs)
    else if b = 125 then .ok (acc, bs)
    else escapeFault line "missing '\x7d'" text (b :: bs)

/-- A code point in braces; `text` is what was read, up to the `u`. -/
def codeEscape (line : Nat) (text bs : List UInt8) : Scan (List UInt8 × List UInt8) :=
  match bs with
  | 123 :: a :: r => do
    if Num.isHexDigit a then
      let (n, r) ← codeDigits line (Num.digitValue a) (a :: 123 :: text) r
      return (utf8Bytes n, r)
    else escapeFault line "hexadecimal digit expected" (123 :: text) (a :: r)
  | [123] => escapeFault line "hexadecimal digit expected" (123 :: text) []
  | _ => escapeFault line "missing '\x7b'" text bs

/-- Up to three decimal digits; `text` is what was read, up to the backslash. -/
def decimalEscape (line : Nat) (text bs : List UInt8) : Scan (UInt8 × List UInt8) :=
  let ds := (bs.take 3).takeWhile Num.isDigit
  let n := Num.ofDigits 10 ds
  let rest := bs.drop ds.length
  if n ≤ 255 then .ok (n.toUInt8, rest)
  else escapeFault line "decimal escape too large" (ds.reverse ++ text) rest

/-- Without white space in front; counts the line ends. -/
def skipSpace : Nat → Nat → List UInt8 → Nat × List UInt8
  | 0, line, bs => (line, bs)
  | _ + 1, line, [] => (line, [])
  | n + 1, line, b :: bs =>
    if isLineEnd b then skipSpace n (line + 1) (afterLineEnd b bs)
    else if Num.isSpace b then skipSpace n line bs
    else (line, b :: bs)

/-- The bytes that simple escapes stand for. -/
def simpleEscape? (b : UInt8) : Option UInt8 :=
  match b with
  | 97 => some 7
  | 98 => some 8
  | 102 => some 12
  | 110 => some 10
  | 114 => some 13
  | 116 => some 9
  | 118 => some 11
  | 92 | 34 | 39 => some b
  | _ => none

/-- The rest of a string in quotes `q`. `text` is what was read, with the opening quote, in reverse;
the result has the line behind the string, the string with its quotes in reverse, and the rest. -/
def quotedBody (q : UInt8) :
    Nat → Nat → List UInt8 → List UInt8 → Scan (Nat × List UInt8 × List UInt8)
  | 0, line, _, _ => .error ⟨line, .empty⟩
  | _ + 1, line, _, [] => .error (.near line "unfinished string" .eof .empty)
  | n + 1, line, text, b :: bs =>
    if b = q then .ok (line, b :: text, bs)
    else if isLineEnd b then
      .error (.near line "unfinished string" (.str .empty) (collect text))
    else if b = 92 then
      match bs with
      | [] => .error (.near line "unfinished string" .eof .empty)
      | e :: r =>
        match simpleEscape? e with
        | some c => quotedBody q n line (c :: text) r
        | none =>
          if isLineEnd e then quotedBody q n (line + 1) (10 :: text) (afterLineEnd e r)
          else if e = 120 then do
            let (c, r) ← hexEscape line (e :: 92 :: text) r
            quotedBody q n line (c :: text) r
          else if e = 117 then do
            let (cs, r) ← codeEscape line (e :: 92 :: text) r
            quotedBody q n line (cs.reverse ++ text) r
          else if e = 122 then
            let (line, r) := skipSpace (r.length + 1) line r
            quotedBody q n line text r
          else if Num.isDigit e then do
            let (c, r) ← decimalEscape line (92 :: text) bs
            quotedBody q n line (c :: text) r
          else escapeFault line "invalid escape sequence" (92 :: text) bs
    else quotedBody q n line (b :: text) bs

/-! ### Numerals -/

/-- The longest text that looks like a numeral: digits, points, and exponents with their signs. -/
def numeralBody (lower upper : UInt8) : List UInt8 → List UInt8 → List UInt8 × List UInt8
  | acc, b :: s :: bs =>
    if b = lower || b = upper then
      if s = 43 || s = 45 then numeralBody lower upper (s :: b :: acc) bs
      else numeralBody lower upper (b :: acc) (s :: bs)
    else if Num.isHexDigit b || b = 46 then numeralBody lower upper (b :: acc) (s :: bs)
    else (acc, b :: s :: bs)
  | acc, [b] =>
    if b = lower || b = upper || Num.isHexDigit b || b = 46 then (b :: acc, []) else (acc, [b])
  | acc, [] => (acc, [])

/-- A numeral that starts with `b`; a letter that touches it spoils it. -/
def readNumeral (line : Nat) (b : UInt8) (bs : List UInt8) : Scan (Lexeme × List UInt8) :=
  let (acc, rest) := match bs with
    | x :: r =>
      if b = 48 && (x = 120 || x = 88) then numeralBody 112 80 [x, b] r
      else numeralBody 101 69 [b] bs
    | [] => ([b], [])
  let (acc, rest) := match rest with
    | c :: r => if isLetter c then (c :: acc, r) else (acc, rest)
    | [] => (acc, [])
  let text := collect acc
  match Num.read? text with
  | some (.int n) => .ok (⟨.int n, line, text⟩, rest)
  | some (.float x) => .ok (⟨.float x, line, text⟩, rest)
  | none => .error (.near line "malformed number" (.float 0.0) text)

/-! ### Tokens -/

/-- The symbol that starts with `b`, and the rest. -/
def readSymbol (b : UInt8) (bs : List UInt8) : Symbol × List UInt8 :=
  match b, bs with
  | 61, 61 :: r => (.eq, r)
  | 60, 61 :: r => (.le, r)
  | 60, 60 :: r => (.shl, r)
  | 62, 61 :: r => (.ge, r)
  | 62, 62 :: r => (.shr, r)
  | 47, 47 :: r => (.idiv, r)
  | 126, 61 :: r => (.ne, r)
  | 58, 58 :: r => (.doubleColon, r)
  | 46, 46 :: 46 :: r => (.dots, r)
  | 46, 46 :: r => (.concat, r)
  | _, _ => (.char b, bs)

/-- The token for a name, which may be reserved. -/
def nameToken (text : ByteArray) : Token :=
  match Symbol.reserved.find? fun (w, _) ↦ w.toUTF8 = text with
  | some (_, s) => .symbol s
  | none => .name text

/-- What stands at the front of the input. -/
inductive Piece where
  /-- White space or a comment, and the line behind it. -/
  | gap (line : Nat) (rest : List UInt8)
  | lexeme (l : Lexeme) (rest : List UInt8)

/-- What follows a comment that goes up to the end of the line. -/
def skipComment (bs : List UInt8) : List UInt8 := bs.dropWhile fun b ↦ !isLineEnd b

/-- Reads a piece that starts with `b`. -/
def readPiece (line : Nat) (b : UInt8) (bs : List UInt8) : Scan Piece :=
  if isLineEnd b then .ok (.gap (line + 1) (afterLineEnd b bs))
  else if Num.isSpace b then .ok (.gap line bs)
  else if isLetter b then
    let text := collect ((bs.takeWhile isNameByte).reverse ++ [b])
    .ok (.lexeme ⟨nameToken text, line, text⟩ (bs.dropWhile isNameByte))
  else if Num.isDigit b then do
    let (l, r) ← readNumeral line b bs
    return .lexeme l r
  else if b = 34 || b = 39 then do
    let (line, text, r) ← quotedBody b (bs.length + 1) line [b] bs
    let body := (text.drop 1).reverse.drop 1
    return .lexeme ⟨.str ⟨body.toArray⟩, line, collect text⟩ r
  else
    match b, bs with
    | 45, 45 :: 91 :: r =>
      match openLong? r with
      | some (level, r) => do
        let (_, line, r) ← readLong "comment" level line r
        return .gap line r
      | none => .ok (.gap line (skipComment r))
    | 45, 45 :: r => .ok (.gap line (skipComment r))
    | 91, _ =>
      match openLong? bs with
      | some (level, r) => do
        let (body, line, r) ← readLong "string" level line r
        let bracket (c : UInt8) := c :: List.replicate level 61 ++ [c]
        return .lexeme ⟨.str (collect body), line, collect (bracket 93 ++ body ++ bracket 91)⟩ r
      | none =>
        let signs := bs.takeWhile (· = 61)
        if signs.isEmpty then .ok (.lexeme ⟨.symbol (.char 91), line, .empty⟩ bs)
        else
          .error (.near line "invalid long string delimiter" (.str .empty)
            (collect (signs ++ [91])))
    | 46, d :: _ => do
      if Num.isDigit d then
        let (l, r) ← readNumeral line b bs
        return .lexeme l r
      else
        let (s, r) := readSymbol b bs
        return .lexeme ⟨.symbol s, line, .empty⟩ r
    | _, _ =>
      let (s, r) := readSymbol b bs
      .ok (.lexeme ⟨.symbol s, line, .empty⟩ r)

/-- The tokens of a chunk: those before the end or the first fault, and the fault. -/
def lexFrom : Nat → Nat → List UInt8 → List Lexeme × Option SyntaxFault
  | 0, line, _ => ([], some ⟨line, .empty⟩)
  | _ + 1, line, [] => ([⟨.eof, line, .empty⟩], none)
  | n + 1, line, b :: bs =>
    match readPiece line b bs with
    | .error e => ([], some e)
    | .ok (.gap line r) => lexFrom n line r
    | .ok (.lexeme l r) =>
      let (ls, e) := lexFrom n l.line r
      (l :: ls, e)

/-- The tokens of a chunk, with the mark of the end. -/
def lex (source : ByteArray) : List Lexeme × Option SyntaxFault :=
  lexFrom (source.size + 1) 1 source.toList

end MacroStream.Script.Lexer
