import MacroStream.Decimal.Shortest

/-!
# JSON values

The values that cross between the host and scripts. Whole numbers and floating-point numbers are
different values: `1` and `1.0` do not become each other on the way. The fields of an object are
sorted by name and their names are distinct; `obj` restores both for any list of fields.
-/

namespace MacroStream

/-- A JSON value. Whole numbers lie between `-2^63` and `2^64 - 1`, floating-point ones are finite. -/
inductive Json where
  | null
  | bool (b : Bool)
  | int (n : Int)
  | float (x : Float)
  | str (s : String)
  | arr (items : List Json)
  | fields (entries : List (String × Json))
  deriving Inhabited, Repr

namespace Json

/-- Puts a field at its place among sorted ones, in place of a field of the same name. -/
def insertField (k : String) (v : Json) : List (String × Json) → List (String × Json)
  | [] => [(k, v)]
  | (k', v') :: rest =>
    if k = k' then (k, v) :: rest
    else if k < k' then (k, v) :: (k', v') :: rest
    else (k', v') :: insertField k v rest

/-- The object with the given fields, the last of each name. -/
def obj (entries : List (String × Json)) : Json :=
  fields (entries.foldl (fun acc (k, v) ↦ insertField k v acc) [])

/-- The value of a field. -/
def field? (k : String) : List (String × Json) → Option Json
  | [] => none
  | (k', v) :: rest => if k = k' then some v else field? k rest

/-- Whole numbers that fit a signed 64-bit word. -/
def fitsInt64 (n : Int) : Bool := -9223372036854775808 ≤ n && n ≤ 9223372036854775807

/-- The number of a finite `x`; there is no other, so anything else is null. -/
def ofFloat (x : Float) : Json := if x.isFinite then float x else null

/-! ### Writing -/

/-- Numbers are written positionally from `0.00001` to below `10^16`. -/
def floatStyle : Decimal.FloatStyle := ⟨-4, 16⟩

/-- The text of a floating-point number; one that is not finite has none and is written as null. -/
def floatText (x : Float) : String := (floatStyle.text? x).getD "null"

/-- A hexadecimal digit in lower case. -/
def hexDigit (n : Nat) : Char := (Nat.toDigits 16 (n % 16)).headD '0'

/-- A character inside a quoted string. -/
def escapeChar (c : Char) : List Char :=
  match c with
  | '"' => ['\\', '"']
  | '\\' => ['\\', '\\']
  | '\n' => ['\\', 'n']
  | '\r' => ['\\', 'r']
  | '\t' => ['\\', 't']
  | '\x08' => ['\\', 'b']
  | '\x0c' => ['\\', 'f']
  | c =>
    if c.toNat < 0x20 then
      ['\\', 'u', '0', '0', hexDigit (c.toNat / 16), hexDigit c.toNat]
    else [c]

/-- A quoted string. -/
def quote (s : String) : String :=
  String.ofList ('"' :: s.toList.flatMap escapeChar ++ ['"'])

mutual

/-- The text of a value without any blanks. -/
def render : Json → String
  | null => "null"
  | bool true => "true"
  | bool false => "false"
  | int n => Int.repr n
  | float x => floatText x
  | str s => quote s
  | arr items => "[" ++ ",".intercalate (renderItems items) ++ "]"
  | fields entries => "\x7b" ++ ",".intercalate (renderFields entries) ++ "\x7d"

/-- The texts of the items of an array. -/
def renderItems : List Json → List String
  | [] => []
  | v :: vs => render v :: renderItems vs

/-- The texts of the fields of an object. -/
def renderFields : List (String × Json) → List String
  | [] => []
  | (k, v) :: rest => (quote k ++ ":" ++ render v) :: renderFields rest

end

end Json

end MacroStream
