import MacroStream.Script.Value

/-!
# Patterns

Patterns describe byte strings: classes of bytes with repetitions, captures, balanced pairs and
frontiers. `Pattern.matchAt` matches a pattern at one position of a subject; how a pattern is broken
is found out only where the match gets to.

A match backtracks. The recursion is bounded by a number that no match exceeds, because each step
goes on in the pattern or in the subject; how deeply matches nest is limited besides.
-/

namespace MacroStream.Script

/-- The byte at a position; 0 behind the end. -/
def byteAt (s : ByteArray) (i : Nat) : UInt8 := if h : i < s.size then s[i] else 0

namespace Pattern

/-- What a capture holds. -/
inductive CaptureEnd where
  /-- Its end has not been found. -/
  | unfinished
  /-- It captures where it starts. -/
  | position
  | length (n : Nat)
  deriving DecidableEq, Repr

/-- A capture: where it starts, and what it holds. -/
abbrev Captured := Nat × CaptureEnd

/-- The state of a match: the captures, oldest first. -/
abbrev Captures := Array Captured

/-- The end of a match and its captures; no end if there is no match; or what is wrong. -/
abbrev MatchResult := Except String (Option (Nat × Captures))

/-- The byte that marks classes. -/
def escape : UInt8 := 37

/-- The most captures. -/
def captureLimit : Nat := 32

/-- How deeply matches nest. -/
def depthLimit : Nat := 200

/-! ### Classes -/

/-- Letters. -/
def isAlpha (b : UInt8) : Bool := (97 ≤ b && b ≤ 122) || (65 ≤ b && b ≤ 90)

/-- Decimal digits. -/
def isDigit (b : UInt8) : Bool := 48 ≤ b && b ≤ 57

/-- Characters with a shape of their own. -/
def isGraphic (b : UInt8) : Bool := 33 ≤ b && b ≤ 126

/-- Lower-case letters. -/
def isLower (b : UInt8) : Bool := 97 ≤ b && b ≤ 122

/-- Upper-case letters. -/
def isUpper (b : UInt8) : Bool := 65 ≤ b && b ≤ 90

/-- A byte in lower case. -/
def toLower (b : UInt8) : UInt8 := if isUpper b then b + 32 else b

/-- A byte in upper case. -/
def toUpper (b : UInt8) : UInt8 := if isLower b then b - 32 else b

/-- White space. -/
def isSpace (b : UInt8) : Bool := b = 32 || (9 ≤ b && b ≤ 13)

/-- Hexadecimal digits. -/
def isHexDigit (b : UInt8) : Bool := isDigit b || (97 ≤ b && b ≤ 102) || (65 ≤ b && b ≤ 70)

/-- The class with a letter. -/
def class? (letter : UInt8) : Option (UInt8 → Bool) :=
  match Char.ofNat (toLower letter).toNat with
  | 'a' => some isAlpha
  | 'c' => some fun b ↦ b < 32 || b = 127
  | 'd' => some isDigit
  | 'g' => some isGraphic
  | 'l' => some isLower
  | 'p' => some fun b ↦ isGraphic b && !isAlpha b && !isDigit b
  | 's' => some isSpace
  | 'u' => some isUpper
  | 'w' => some fun b ↦ isAlpha b || isDigit b
  | 'x' => some isHexDigit
  | 'z' => some fun b ↦ b = 0
  | _ => none

/-- Whether a byte is in the class behind the mark; an upper-case letter means the complement, and
what is no class means itself. -/
def inClass (letter b : UInt8) : Bool :=
  match class? letter with
  | some p => if isUpper letter then !p b else p b
  | none => letter = b

/-- The position behind the set that goes on at `p`, of which something was read. -/
def setEnd (pat : ByteArray) : Nat → Nat → Except String Nat
  | 0, _ => .error "malformed pattern (missing ']')"
  | fuel + 1, p =>
    if pat.size ≤ p then .error "malformed pattern (missing ']')"
    else
      let p' := if byteAt pat p = escape && p + 1 < pat.size then p + 2 else p + 1
      if byteAt pat p' = 93 && p' < pat.size then .ok (p' + 1) else setEnd pat fuel p'

/-- The position behind the single class at `p`. -/
def classEnd (pat : ByteArray) (p : Nat) : Except String Nat :=
  if byteAt pat p = escape then
    if pat.size ≤ p + 1 then .error "malformed pattern (ends with '%')" else .ok (p + 2)
  else if byteAt pat p = 91 then
    setEnd pat (pat.size + 1) (if byteAt pat (p + 1) = 94 then p + 2 else p + 1)
  else .ok (p + 1)

/-- Whether a byte is in the set between `p` and its end `ec`. -/
def inSetFrom (pat : ByteArray) (b : UInt8) (ec : Nat) : Nat → Nat → Bool
  | 0, _ => false
  | fuel + 1, p =>
    if ec ≤ p then false
    else if byteAt pat p = escape then
      inClass (byteAt pat (p + 1)) b || inSetFrom pat b ec fuel (p + 2)
    else if byteAt pat (p + 1) = 45 && p + 2 < ec then
      (byteAt pat p ≤ b && b ≤ byteAt pat (p + 2)) || inSetFrom pat b ec fuel (p + 3)
    else byteAt pat p = b || inSetFrom pat b ec fuel (p + 1)

/-- Whether a byte is in the set that starts at `p` and whose closing bracket is at `ec`. -/
def inSet (pat : ByteArray) (b : UInt8) (p ec : Nat) : Bool :=
  if byteAt pat (p + 1) = 94 then !inSetFrom pat b ec (pat.size + 1) (p + 2)
  else inSetFrom pat b ec (pat.size + 1) (p + 1)

/-- Whether the single class from `p` to `ep` has the byte of the subject at `s`. -/
def single (subject pat : ByteArray) (s p ep : Nat) : Bool :=
  if subject.size ≤ s then false
  else
    let b := byteAt subject s
    match byteAt pat p with
    | 46 => true
    | 37 => inClass (byteAt pat (p + 1)) b
    | 91 => inSet pat b p (ep - 1)
    | c => c = b

/-- How many bytes in a row a single class has from `s` on. -/
def countSingles (subject pat : ByteArray) (p ep : Nat) : Nat → Nat → Nat → Nat
  | 0, _, n => n
  | fuel + 1, s, n =>
    if single subject pat s p ep then countSingles subject pat p ep fuel (s + 1) (n + 1) else n

/-- The end of a balanced piece between `open'` and `close`, `depth` of which are open before `s`. -/
def balancedEnd (subject : ByteArray) (open' close : UInt8) : Nat → Nat → Nat → Option Nat
  | 0, _, _ => none
  | fuel + 1, depth, s =>
    if subject.size ≤ s then none
    else
      let b := byteAt subject s
      if b = close then
        if depth ≤ 1 then some (s + 1) else balancedEnd subject open' close fuel (depth - 1) (s + 1)
      else if b = open' then balancedEnd subject open' close fuel (depth + 1) (s + 1)
      else balancedEnd subject open' close fuel depth (s + 1)

/-! ### Captures -/

/-- The newest capture whose end has not been found. -/
def openCapture? (caps : Captures) : Option Nat :=
  ((List.range caps.size).reverse).find? fun i ↦ (caps.getD i (0, .unfinished)).2 = .unfinished

/-- The text of a finished capture that the pattern refers to by a digit; a capture of a position
has none. -/
def referredText (subject : ByteArray) (caps : Captures) (digit : UInt8) :
    Except String (Option ByteArray) :=
  let n := digit.toNat - 48
  match (if n = 0 then none else caps[n - 1]?) with
  | some (s, .length l) => .ok (some (subject.extract s (s + l)))
  | some (_, .position) => .ok none
  | _ => .error ("invalid capture index %" ++ Nat.repr n)

/-- Whether a piece stands at `s`. -/
def standsAt (subject piece : ByteArray) (s : Nat) : Bool :=
  s + piece.size ≤ subject.size && subject.extract s (s + piece.size) == piece

/-! ### Matching -/

mutual

/-- Matches the pattern from `p` on at `s`. -/
def run (subject pat : ByteArray) : Nat → Nat → Nat → Nat → Captures → MatchResult
  | 0, _, _, _, _ => .error "pattern too complex"
  | fuel + 1, depth, s, p, caps =>
    if pat.size ≤ p then .ok (some (s, caps))
    else
      match byteAt pat p with
      | 40 =>
        let (p', kind) :=
          if byteAt pat (p + 1) = 41 then (p + 2, CaptureEnd.position) else (p + 1, .unfinished)
        if captureLimit ≤ caps.size then .error "too many captures"
        else nested subject pat fuel depth s p' (caps.push (s, kind))
      | 41 =>
        match openCapture? caps with
        | none => .error "invalid pattern capture"
        | some i =>
          let start := (caps.getD i (0, .unfinished)).1
          nested subject pat fuel depth s (p + 1)
            (caps.setIfInBounds i (start, .length (s - start)))
      | 36 =>
        if p + 1 = pat.size then .ok (if s = subject.size then some (s, caps) else none)
        else plain subject pat fuel depth s p caps
      | 37 =>
        match byteAt pat (p + 1) with
        | 98 =>
          if pat.size ≤ p + 3 then
            .error "malformed pattern (missing arguments to '%b')"
          else
            let open' := byteAt pat (p + 2)
            if subject.size ≤ s || byteAt subject s ≠ open' then .ok none
            else
              match balancedEnd subject open' (byteAt pat (p + 3)) (subject.size + 1) 1
                  (s + 1) with
              | some s' => run subject pat fuel depth s' (p + 4) caps
              | none => .ok none
        | 102 =>
          if byteAt pat (p + 2) ≠ 91 then .error "missing '[' after '%f' in pattern"
          else
            match classEnd pat (p + 2) with
            | .error e => .error e
            | .ok ep =>
              let before := if s = 0 then 0 else byteAt subject (s - 1)
              if !inSet pat before (p + 2) (ep - 1) && inSet pat (byteAt subject s) (p + 2) (ep - 1)
              then run subject pat fuel depth s ep caps
              else .ok none
        | c =>
          if isDigit c then
            match referredText subject caps c with
            | .error e => .error e
            | .ok none => .ok none
            | .ok (some piece) =>
              if standsAt subject piece s then
                run subject pat fuel depth (s + piece.size) (p + 2) caps
              else .ok none
          else plain subject pat fuel depth s p caps
      | _ => plain subject pat fuel depth s p caps

/-- Matches one level deeper. -/
def nested (subject pat : ByteArray) : Nat → Nat → Nat → Nat → Captures → MatchResult
  | 0, _, _, _, _ => .error "pattern too complex"
  | fuel + 1, depth, s, p, caps =>
    if depthLimit ≤ depth + 1 then .error "pattern too complex"
    else run subject pat fuel (depth + 1) s p caps

/-- Matches a single class with its repetition. -/
def plain (subject pat : ByteArray) : Nat → Nat → Nat → Nat → Captures → MatchResult
  | 0, _, _, _, _ => .error "pattern too complex"
  | fuel + 1, depth, s, p, caps =>
    match classEnd pat p with
    | .error e => .error e
    | .ok ep =>
      let suffix := if ep < pat.size then byteAt pat ep else 0
      if single subject pat s p ep then
        match suffix with
        | 63 =>
          match nested subject pat fuel depth (s + 1) (ep + 1) caps with
          | .ok none => run subject pat fuel depth s (ep + 1) caps
          | r => r
        | 43 =>
          longest subject pat fuel depth (s + 1) ep caps
            (countSingles subject pat p ep (subject.size + 1) (s + 1) 0)
        | 42 =>
          longest subject pat fuel depth s ep caps
            (countSingles subject pat p ep (subject.size + 1) s 0)
        | 45 => shortest subject pat fuel depth s p ep caps
        | _ => run subject pat fuel depth (s + 1) ep caps
      else if suffix = 42 || suffix = 63 || suffix = 45 then
        run subject pat fuel depth s (ep + 1) caps
      else .ok none

/-- Matches the rest of the pattern behind `n` repetitions, or behind fewer. -/
def longest (subject pat : ByteArray) : Nat → Nat → Nat → Nat → Captures → Nat → MatchResult
  | 0, _, _, _, _, _ => .error "pattern too complex"
  | fuel + 1, depth, s, ep, caps, n =>
    match nested subject pat fuel depth (s + n) (ep + 1) caps with
    | .ok none => if n = 0 then .ok none else longest subject pat fuel depth s ep caps (n - 1)
    | r => r

/-- Matches the rest of the pattern at `s`, or behind more repetitions. -/
def shortest (subject pat : ByteArray) :
    Nat → Nat → Nat → Nat → Nat → Captures → MatchResult
  | 0, _, _, _, _, _ => .error "pattern too complex"
  | fuel + 1, depth, s, p, ep, caps =>
    match nested subject pat fuel depth s (ep + 1) caps with
    | .ok none =>
      if single subject pat s p ep then shortest subject pat fuel depth (s + 1) p ep caps
      else .ok none
    | r => r

end

/-- Matches a pattern at position `s` of a subject. -/
def matchAt (subject pat : ByteArray) (s p : Nat) : MatchResult :=
  run subject pat (4 * (subject.size + 2) * (pat.size + 2)) 0 s p #[]

/-- The first match at position `s` or behind it: where it starts, where it ends, its captures. -/
def search (subject pat : ByteArray) (p : Nat) (anchored : Bool) :
    Nat → Nat → Except String (Option (Nat × Nat × Captures))
  | 0, _ => .ok none
  | fuel + 1, s =>
    match matchAt subject pat s p with
    | .error e => .error e
    | .ok (some (e, caps)) => .ok (some (s, e, caps))
    | .ok none =>
      if anchored || subject.size ≤ s then .ok none else search subject pat p anchored fuel (s + 1)

/-- The value of capture `i` of a match from `s` to `e`; without captures the first one is the
whole match. -/
def captureValue (subject : ByteArray) (caps : Captures) (i s e : Nat) : Except String Value :=
  match caps[i]? with
  | none =>
    if i = 0 then .ok (.str (subject.extract s e))
    else .error ("invalid capture index %" ++ Nat.repr (i + 1))
  | some (_, .unfinished) => .error "unfinished capture"
  | some (start, .position) => .ok (.int (Int64.ofNat (start + 1)))
  | some (start, .length n) => .ok (.str (subject.extract start (start + n)))

/-- The values of all captures of a match, or the whole match if there are none. -/
def captureValues (subject : ByteArray) (caps : Captures) (s e : Nat) :
    Except String (List Value) :=
  (List.range (max 1 caps.size)).mapM fun i ↦ captureValue subject caps i s e

/-- Whether a pattern has a byte with a special meaning. -/
def isSpecial (pat : ByteArray) : Bool :=
  pat.data.toList.any fun b ↦ "^$*+?.([%-".toUTF8.data.toList.contains b

/-- The first position from `s` on where a piece stands. -/
def findPlain (subject piece : ByteArray) : Nat → Nat → Option Nat
  | 0, _ => none
  | fuel + 1, s =>
    if subject.size < s + piece.size then none
    else if standsAt subject piece s then some s
    else findPlain subject piece fuel (s + 1)

end Pattern

end MacroStream.Script
