import MacroStream.Script.Library.Arguments

/-!
# Functions on numbers

Random numbers come from the generator xoshiro256**, whose state is kept in the heap.
-/

namespace MacroStream.Script.Library

open Action

/-- An integer if the number has that value and fits, and the number itself otherwise. -/
def integral (x : Float) : Value :=
  match Num.exactInt? x with
  | some n => .int n
  | none => .float x

/-- The largest, or the smallest, of numbers. -/
def extreme (better : Num → Num → Bool) (args : Args) : Nat → Nat → Num → Action Num
  | 0, _, best => return best
  | count + 1, n, best => do
    let x ← needNumber args n
    extreme better args count (n + 1) (if better x best then x else best)

namespace Random

/-- The state of the generator. -/
abbrev State := UInt64 × UInt64 × UInt64 × UInt64

/-- A word turned to the left. -/
def rotate (x n : UInt64) : UInt64 := (x <<< n) ||| (x >>> (64 - n))

/-- The next word. -/
def next : State → UInt64 × State
  | (s0, s1, s2, s3) =>
    let result := rotate (s1 * 5) 7 * 9
    let t := s1 <<< 17
    let s2 := s2 ^^^ s0
    let s3 := s3 ^^^ s1
    let s1' := s1 ^^^ s2
    let s0 := s0 ^^^ s3
    (result, (s0, s1', s2 ^^^ t, rotate s3 45))

/-- The state after `n` words. -/
def discard : Nat → State → State
  | 0, s => s
  | n + 1, s => discard n (next s).2

/-- The state that two integers start. -/
def seeded (a b : UInt64) : State := discard 16 (a, 0xff, b, 0)

/-- The least number of the form `2^k - 1` that is at least `n`. -/
def mask (n : UInt64) : UInt64 :=
  let n := n ||| (n >>> 1)
  let n := n ||| (n >>> 2)
  let n := n ||| (n >>> 4)
  let n := n ||| (n >>> 8)
  let n := n ||| (n >>> 16)
  n ||| (n >>> 32)

/-- A word that is at most `n`, from a word and as many more as it takes. -/
def project (n : UInt64) : Nat → UInt64 → State → UInt64 × State
  | 0, _, s => (0, s)
  | fuel + 1, word, s =>
    let w := word &&& mask n
    if w ≤ n then (w, s)
    else
      let (word, s) := next s
      project n fuel word s

end Random

/-- The next random word. -/
def randomWord : Action UInt64 := modifyGet fun h ↦
  let (w, s) := Random.next h.random
  (w, { h with random := s })

/-- A random integer between two others. -/
def randomBetween (low high : Int64) : Action (List Value) := do
  if high < low then badArgument 1 "interval is empty"
  let word ← randomWord
  let n ← modifyGet fun h ↦
    let (n, s) := Random.project (high.toUInt64 - low.toUInt64) 1000000 word h.random
    (n, { h with random := s })
  return [.int (low + n.toInt64)]

/-- A random number. -/
def random (args : Args) : Action (List Value) :=
  match args.length with
  | 0 => do
    let w ← randomWord
    return [.float ((w >>> 11).toFloat * Float.scaleB 1 (-53))]
  | 1 => do
    let high ← needInt args 1
    if high = 0 then return [.int (← randomWord).toInt64] else randomBetween 1 high
  | 2 => do
    let low ← needInt args 1
    let high ← needInt args 2
    randomBetween low high
  | _ => fail "wrong number of arguments"

/-- Starts the generator anew. -/
def randomseed (args : Args) : Action (List Value) := do
  let a ← match arg? args 1 with
    | none => pure 0
    | some _ => do
      let x ← needNumber args 1
      match x with
      | .int n => pure n
      | .float f => pure ((Num.exactInt? f).getD f.toBits.toInt64)
  let b ← optInt args 2 0
  update fun h ↦ { h with random := Random.seeded a.toUInt64 b.toUInt64 }
  return [.int a, .int b]

/-- Runs a function on numbers. -/
def math (f : MathFunction) (args : Args) : Action (List Value) :=
  match f with
  | .abs => do
    match ← needNumber args 1 with
    | .int n => return [.int (if n < 0 then -n else n)]
    | .float x => return [.float x.abs]
  | .acos => plain Float.acos
  | .asin => plain Float.asin
  | .atan => do
    let y ← needFloat args 1
    let x ← optNumber args 2 (.int 1)
    return [.float (Float.atan2 y x.toFloat)]
  | .ceil => rounded Float.ceil
  | .cos => plain Float.cos
  | .deg => plain fun x ↦ x * (180.0 / 3.141592653589793)
  | .exp => plain Float.exp
  | .floor => rounded Float.floor
  | .fmod => do
    let a ← needNumber args 1
    let b ← needNumber args 2
    match a, b with
    | .int m, .int n =>
      if n = 0 then badArgument 2 "zero"
      else return [.int (if n = -1 then 0 else m % n)]
    | a, b => return [.float (Num.truncMod a.toFloat b.toFloat)]
  | .log => do
    let x ← needFloat args 1
    if isAbsent args 2 then return [.float x.log]
    else
      let base ← needFloat args 2
      if base == 2 then return [.float x.log2]
      else if base == 10 then return [.float x.log10]
      else return [.float (x.log / base.log)]
  | .max => do
    let first ← needNumber args 1
    return [.ofNum (← extreme (fun x best ↦ best.lt x) args (args.length - 1) 2 first)]
  | .min => do
    let first ← needNumber args 1
    return [.ofNum (← extreme (fun x best ↦ x.lt best) args (args.length - 1) 2 first)]
  | .modf => do
    match ← needNumber args 1 with
    | .int n => return [.int n, .float 0]
    | .float x =>
      let whole := if x < 0 then x.ceil else x.floor
      return [.float whole, .float (if x == whole then 0 else x - whole)]
  | .rad => plain fun x ↦ x * (3.141592653589793 / 180.0)
  | .random => random args
  | .randomseed => randomseed args
  | .sin => plain Float.sin
  | .sqrt => plain Float.sqrt
  | .tan => plain Float.tan
  | .tointeger => do
    let v ← needAny args 1
    match (numberOf? v).bind Num.toInt? with
    | some n => return [.int n]
    | none => return [.nil]
  | .type => do
    match ← needAny args 1 with
    | .int _ => return [textValue "integer"]
    | .float _ => return [textValue "float"]
    | _ => return [.nil]
  | .ult => do
    let a ← needInt args 1
    let b ← needInt args 2
    return [.bool (a.toUInt64 < b.toUInt64)]
where
  /-- A function on floating-point numbers. -/
  plain (g : Float → Float) : Action (List Value) := do return [.float (g (← needFloat args 1))]
  /-- A function that rounds. -/
  rounded (g : Float → Float) : Action (List Value) := do
    match ← needNumber args 1 with
    | .int n => return [.int n]
    | .float x => return [integral (g x)]

end MacroStream.Script.Library
