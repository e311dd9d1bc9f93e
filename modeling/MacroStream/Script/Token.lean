import MacroStream.Script.Number

/-!
# Tokens of the script language

The kinds of tokens, how messages name them, and the fixed spellings. A token of fixed spelling is a
`Symbol`; reserved words are symbols too.
-/

namespace MacroStream.Script

/-- Tokens of one spelling. -/
inductive Symbol where
  -- Reserved words.
  | kAnd | kBreak | kDo | kElse | kElseif | kEnd | kFalse | kFor | kFunction | kGoto | kIf | kIn
  | kLocal | kNil | kNot | kOr | kRepeat | kReturn | kThen | kTrue | kUntil | kWhile
  -- Several characters.
  | idiv | concat | dots | eq | ge | le | ne | shl | shr | doubleColon
  -- Any other character stands for itself.
  | char (b : UInt8)
  deriving DecidableEq, Repr

namespace Symbol

/-- The reserved words with their spellings. -/
def reserved : List (String × Symbol) :=
  [("and", kAnd), ("break", kBreak), ("do", kDo), ("else", kElse), ("elseif", kElseif),
    ("end", kEnd), ("false", kFalse), ("for", kFor), ("function", kFunction), ("goto", kGoto),
    ("if", kIf), ("in", kIn), ("local", kLocal), ("nil", kNil), ("not", kNot), ("or", kOr),
    ("repeat", kRepeat), ("return", kReturn), ("then", kThen), ("true", kTrue), ("until", kUntil),
    ("while", kWhile)]

/-- The spelling of a symbol; a byte that does not print is written as its number. -/
def spelling : Symbol → String
  | idiv => "//"
  | concat => ".."
  | dots => "..."
  | eq => "=="
  | ge => ">="
  | le => "<="
  | ne => "~="
  | shl => "<<"
  | shr => ">>"
  | doubleColon => "::"
  | char b =>
    if 32 ≤ b && b ≤ 126 then String.ofList [Char.ofNat b.toNat]
    else "<\\" ++ Nat.repr b.toNat ++ ">"
  | word => ((reserved.find? fun (_, s) ↦ s = word).map Prod.fst).getD ""

end Symbol

/-- A token. -/
inductive Token where
  | symbol (s : Symbol)
  | name (s : ByteArray)
  | str (s : ByteArray)
  | int (n : Int64)
  | float (x : Float)
  | eof

/-- A token with what messages say of it. -/
structure Lexeme where
  token : Token
  /-- The line on which the token ends. -/
  line : Nat
  /-- The spelling of a name, a string or a number, as far as it was read. -/
  text : ByteArray

/-- What is wrong with a chunk, and where. -/
structure SyntaxFault where
  line : Nat
  message : ByteArray

namespace Token

/-- The bytes before the first zero. -/
def beforeZero (s : ByteArray) : ByteArray :=
  ⟨(s.toList.takeWhile (· ≠ 0)).toArray⟩

/-- Bytes of a text. -/
def bytes (s : String) : ByteArray := s.toUTF8

/-- A token as messages show it. -/
def display (t : Token) (text : ByteArray) : ByteArray :=
  match t with
  | symbol s => bytes ("'" ++ s.spelling ++ "'")
  | eof => bytes "<eof>"
  | name _ | str _ | int _ | float _ => bytes "'" ++ beforeZero text ++ bytes "'"

end Token

namespace SyntaxFault

/-- A fault at a token. -/
def near (line : Nat) (message : String) (t : Token) (text : ByteArray) : SyntaxFault :=
  ⟨line, message.toUTF8 ++ " near ".toUTF8 ++ t.display text⟩

end SyntaxFault

end MacroStream.Script
