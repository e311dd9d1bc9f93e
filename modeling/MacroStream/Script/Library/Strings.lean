import MacroStream.Script.Library.Format
import MacroStream.Script.Library.Packing

/-!
# Functions on strings

Positions count bytes from 1; negative ones count from the end.
-/

namespace MacroStream.Script.Library

open Action

/-- The result of a pure computation, or a complaint. -/
def orFail {α : Type} : Except String α → Action α
  | .ok a => return a
  | .error m => fail m

/-- The first position that is meant, for a string of `n` bytes. -/
def startPosition (pos : Int64) (n : Nat) : Nat :=
  if 0 < pos then pos.toNatClampNeg
  else if pos = 0 then 1
  else if pos.toInt < -(n : Int) then 1
  else (n + pos.toInt + 1).toNat

/-- The last position that is meant, for a string of `n` bytes. -/
def endPosition (pos : Int64) (n : Nat) : Nat :=
  if (n : Int) < pos.toInt then n
  else if 0 ≤ pos then pos.toNatClampNeg
  else if pos.toInt < -(n : Int) then 0
  else (n + pos.toInt + 1).toNat

/-- The longest string. -/
def stringLimit : Nat := 9223372036854775807

/-- Strings that are too long to be made at all. -/
def memorySize : Nat := 4294967296

/-- `n` copies of a string, joined by a separator. -/
def copies (s separator : ByteArray) : Nat → ByteArray → ByteArray
  | 0, acc => acc
  | 1, acc => acc ++ s
  | n + 2, acc => copies s separator (n + 1) (acc ++ s ++ separator)

/-- The bytes given by integers. -/
def bytesFrom (args : Args) : Nat → List Value → ByteArray → Action ByteArray
  | _, [], acc => return acc
  | n, _ :: rest, acc => do
    let c ← needInt args n
    if c < 0 || 255 < c then badArgument n "value out of range"
    bytesFrom args (n + 1) rest (acc.push c.toUInt64.toUInt8)

/-! ### Searching -/

/-- `find` and `match`. -/
def findOrMatch (find : Bool) (args : Args) : Action (List Value) := do
  let s ← needBytes args 1
  let pat ← needBytes args 2
  let init := startPosition (← optInt args 3 1) s.size - 1
  if s.size < init then return [.nil]
  else if find && ((arg args 4).isTruthy || !Pattern.isSpecial pat) then
    match Pattern.findPlain s pat (s.size + 2) init with
    | some i => return [.int (Int64.ofNat (i + 1)), .int (Int64.ofNat (i + pat.size))]
    | none => return [.nil]
  else
    let anchored := byteAt pat 0 = 94
    let found ← orFail
      (Pattern.search s pat (if anchored then 1 else 0) anchored (s.size + 2) init)
    match found with
    | none => return [.nil]
    | some (i, e, caps) =>
      if find then
        let vs ← if caps.isEmpty then pure [] else orFail (Pattern.captureValues s caps i e)
        return .int (Int64.ofNat (i + 1)) :: .int (Int64.ofNat e) :: vs
      else orFail (Pattern.captureValues s caps i e)

/-- The next match behind position `s` that does not end at `last`. -/
def nextMatch (subject pat : ByteArray) (last : Option Nat) :
    Nat → Nat → Except String (Option (Nat × Nat × Pattern.Captures))
  | 0, _ => .ok none
  | fuel + 1, s =>
    if subject.size < s then .ok none
    else
      match Pattern.matchAt subject pat s 0 with
      | .error e => .error e
      | .ok (some (e, caps)) =>
        if some e = last then nextMatch subject pat last fuel (s + 1)
        else .ok (some (s, e, caps))
      | .ok none => nextMatch subject pat last fuel (s + 1)

/-- The next match of an iterator, which keeps its position and the end of the last match. -/
def stepMatches (subject pat : ByteArray) (position : Nat) : Action (List Value) := do
  let start ← read (·.cell position)
  let last ← read (·.cell (position + 1))
  let toNat : Value → Nat
    | .int n => n.toNatClampNeg
    | _ => 0
  let found ← orFail
    (nextMatch subject pat (if last.isNil then none else some (toNat last)) (subject.size + 2)
      (toNat start))
  match found with
  | none => do
    update (·.setCell position (.int (Int64.ofNat (subject.size + 1))))
    return [.nil]
  | some (s, e, caps) => do
    update fun h ↦
      (h.setCell position (.int (Int64.ofNat e))).setCell (position + 1) (.int (Int64.ofNat e))
    orFail (Pattern.captureValues subject caps s e)

/-! ### Replacing -/

/-- The text that a replacement string makes of a match. -/
def fillReplacement (subject : ByteArray) (caps : Pattern.Captures) (s e : Nat) :
    List UInt8 → ByteArray → Except String ByteArray
  | [], acc => .ok acc
  | 37 :: 37 :: rest, acc => fillReplacement subject caps s e rest (acc.push 37)
  | 37 :: 48 :: rest, acc => fillReplacement subject caps s e rest (acc ++ subject.extract s e)
  | 37 :: b :: rest, acc =>
    if Num.isDigit b then
      match Pattern.captureValue subject caps (b.toNat - 49) s e with
      | .error m => .error m
      | .ok v =>
        fillReplacement subject caps s e rest (acc ++ (v.concatBytes?.getD .empty))
    else .error "invalid use of '%' in replacement string"
  | [37], _ => .error "invalid use of '%' in replacement string"
  | b :: rest, acc => fillReplacement subject caps s e rest (acc.push b)

/-- What a match is replaced by. -/
def replacement (subject : ByteArray) (by' : Value) (caps : Pattern.Captures) (s e : Nat) :
    Action ByteArray := do
  let v ← match by' with
    | .table _ => do
      let key ← orFail (Pattern.captureValue subject caps 0 s e)
      getKey by' key
    | .str t => do pure (.str (← orFail (fillReplacement subject caps s e t.data.toList .empty)))
    | f => do
      let vs ← orFail (Pattern.captureValues subject caps s e)
      pure ((← callPlain f vs).headD .nil)
  match v with
  | .nil | .bool false => return subject.extract s e
  | v =>
    match v.concatBytes? with
    | some t => return t
    | none => fail ("invalid replacement value (a " ++ v.typeName ++ ")")

/-- Replaces matches from position `s` on: the text so far, and how many were replaced. -/
def replaceFrom (subject pat : ByteArray) (by' : Value) (anchored : Bool) (limit : Int64) :
    Nat → Nat → Option Nat → Int64 → ByteArray → Action (ByteArray × Int64)
  | 0, _, _, n, acc => return (acc, n)
  | fuel + 1, s, last, n, acc =>
    if limit ≤ n then return (acc ++ subject.extract s subject.size, n)
    else do
      let found ← orFail (Pattern.matchAt subject pat s (if anchored then 1 else 0))
      match (found.filter fun (e, _) ↦ some e ≠ last) with
      | some (e, caps) => do
        let t ← replacement subject by' caps s e
        reserve t.size
        let acc := acc ++ t
        if anchored then return (acc ++ subject.extract e subject.size, n + 1)
        else replaceFrom subject pat by' anchored limit fuel e (some e) (n + 1) acc
      | none =>
        if subject.size ≤ s then return (acc, n)
        else
          let acc := acc.push (byteAt subject s)
          if anchored then return (acc ++ subject.extract (s + 1) subject.size, n)
          else replaceFrom subject pat by' anchored limit fuel (s + 1) last n acc

/-- Replaces matches of a pattern. -/
def gsub (args : Args) : Action (List Value) := do
  let s ← needBytes args 1
  let pat ← needBytes args 2
  let by' ← match arg args 3 with
    | .int n => pure (.str (Num.text (.int n)).toUTF8)
    | .float x => pure (.str (Num.text (.float x)).toUTF8)
    | .str t => pure (.str t)
    | .table a => pure (.table a)
    | .function a => pure (.function a)
    | .primitive p => pure (.primitive p)
    | _ => wrongType args 3 "string/function/table"
  let limit ← optInt args 4 (Int64.ofNat (s.size + 1))
  let anchored := byteAt pat 0 = 94 && 0 < pat.size
  let (t, n) ← replaceFrom s pat by' anchored limit (2 * s.size + 4) 0 none 0 .empty
  return [.str t, .int n]

/-! ### Arithmetic on strings -/

/-- The operator with a name. -/
def operatorOf? (event : String) : Option BinaryOp :=
  [BinaryOp.add, .sub, .mul, .div, .idiv, .mod, .pow].find? fun op ↦ op.event = event

/-- Arithmetic on operands of which at least one is a string: strings stand for numbers if they
can. -/
def stringArith (event : String) (args : Args) : Action (List Value) := do
  let a := arg args 1
  let b := arg args 2
  match numberOf? a, numberOf? b with
  | some m, some n =>
    match operatorOf? event with
    | some op => return [← arith none op (.ofNum m) (.ofNum n) none none]
    | none => return [.ofNum (Arith.negate m)]
  | _, _ => do
    let handler ← read (·.metafield b ("__" ++ event).toUTF8)
    if b.isString || handler.isNil then
      fail ("attempt to perform arithmetic on a " ++ a.typeName ++ " value")
    else return [(← callPlain handler [a, b]).headD .nil]

/-- Runs a function on strings. -/
def string (f : StringFunction) (args : Args) : Action (List Value) :=
  match f with
  | .byte => do
    let s ← needBytes args 1
    let first ← optInt args 2 1
    let i := startPosition first s.size
    let j := endPosition (← optInt args 3 first) s.size
    return (s.extract (i - 1) j).data.toList.map fun b ↦ .int (Int64.ofNat b.toNat)
  | .char => do return [.str (← bytesFrom args 1 args .empty)]
  | .dump => do
    let _ ← needFunction args 1
    fail "unable to dump given function"
  | .find => findOrMatch true args
  | .format => do
    let text ← needBytes args 1
    return [.str (← Format.run args (text.size + 1) 2 .empty text.data.toList)]
  | .gmatch => do
    let s ← needBytes args 1
    let pat ← needBytes args 2
    let init := startPosition (← optInt args 3 1) s.size - 1
    let position ← newCell (.int (Int64.ofNat (min init (s.size + 1))))
    let _ ← newCell .nil
    return [← modifyGet (·.newFunction (.matches s pat position))]
  | .gsub => gsub args
  | .len => do return [.int (Int64.ofNat (← needBytes args 1).size)]
  | .lower => do
    let s ← needBytes args 1
    reserveBuilt s.size
    return [.str ⟨s.data.map Pattern.toLower⟩]
  | .match => findOrMatch false args
  | .pack => do
    let format ← needBytes args 1
    return [.str (← Packing.pack args (format.size + 1) {} 2 [] format.data.toList)]
  | .packsize => do
    let format ← needBytes args 1
    match Packing.packedSize (format.size + 1) {} 0 format.data.toList with
    | .ok n => return [.int (Int64.ofNat n)]
    | .error m =>
      if m = "variable-length format" || m = "format result too large" then badArgument 1 m
      else fail m
  | .rep => do
    let s ← needBytes args 1
    let n ← needInt args 2
    let separator ← optBytes args 3 .empty
    if n ≤ 0 then return [.str .empty]
    else
      let count := n.toNatClampNeg
      if stringLimit < (s.size + separator.size) * count then fail "resulting string too large"
      else
        let total := s.size * count + separator.size * (count - 1)
        reserveBuilt total
        if memorySize < total then outOfMemory
        else if total = 0 then return [.str .empty]
        else return [.str (copies s separator count (ByteArray.emptyWithCapacity total))]
  | .reverse => do
    let s ← needBytes args 1
    reserveBuilt s.size
    return [.str ⟨s.data.reverse⟩]
  | .sub => do
    let s ← needBytes args 1
    let i := startPosition (← needInt args 2) s.size
    let j := endPosition (← optInt args 3 (-1)) s.size
    let piece := s.extract (i - 1) j
    reserve piece.size
    return [.str piece]
  | .unpack => do
    let format ← needBytes args 1
    let s ← needBytes args 2
    let pos := startPosition (← optInt args 3 1) s.size - 1
    if s.size < pos then badArgument 3 "initial position out of string"
    else Packing.unpack s (format.size + 1) {} pos [] format.data.toList
  | .upper => do
    let s ← needBytes args 1
    reserveBuilt s.size
    return [.str ⟨s.data.map Pattern.toUpper⟩]
  | .arith event => stringArith event args

end MacroStream.Script.Library
