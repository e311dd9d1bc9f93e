import MacroStream.Script.Library.Arguments

/-!
# Functions on tables as sequences

The functions look at metatables: anything that can be indexed, and has a length where one is
needed, may take the place of a table.

Sorting is quicksort with the median of the first, the middle and the last element, on intervals of
which the shorter one is sorted first. Which elements are compared is visible to a comparison
function, and so is the order of elements that it does not tell apart.
-/

namespace MacroStream.Script.Library

open Action

/-- Metafields that stand for abilities of tables. -/
structure Abilities where
  reads : Bool := false
  writes : Bool := false
  measures : Bool := false

/-- Argument `n` as something that can do what a table can. -/
def needSequence (args : Args) (n : Nat) (a : Abilities) : Action Value :=
  match arg args n with
  | .table t => return .table t
  | v => do
    let able ← read fun h ↦
      (h.metatable? v).isSome &&
        (!a.reads || !(h.metafield v MetaName.index).isNil) &&
        (!a.writes || !(h.metafield v MetaName.newindex).isNil) &&
        (!a.measures || !(h.metafield v MetaName.len).isNil)
    if able then return v else wrongType args n "table"

/-- Copies `n` elements upwards from the first one. -/
def moveUp (source target : Value) (f t : Int64) : Nat → Action Unit
  | 0 => return ()
  | n + 1 => do
    setKey target (.int t) (← getKey source (.int f))
    moveUp source target (f + 1) (t + 1) n

/-- Copies `n` elements downwards from the last one. -/
def moveDown (source target : Value) (f t : Int64) : Nat → Action Unit
  | 0 => return ()
  | n + 1 => do
    setKey target (.int (t + Int64.ofNat n)) (← getKey source (.int (f + Int64.ofNat n)))
    moveDown source target f t n

/-- The distance between two integers, as a natural number. -/
def distance (low high : Int64) : Nat := (high.toInt - low.toInt).toNat

/-- The elements from `i` on, `n` of them. -/
def elements (t : Value) (i : Int64) : Nat → Action (List Value)
  | 0 => return []
  | n + 1 => do
    let v ← getKey t (.int i)
    return v :: (← elements t (i + 1) n)

/-- Joins elements behind `acc`: `n` of them, each with a separator behind it but the last. -/
def joinElements (t : Value) (separator : ByteArray) (i : Int64) (acc : ByteArray) :
    Nat → Action ByteArray
  | 0 => return acc
  | n + 1 => do
    let v ← getKey t (.int i)
    match v.concatBytes? with
    | none =>
      fail ("invalid value (" ++ v.typeName ++ ") at index " ++ Int.repr i.toInt ++
        " in table for 'concat'")
    | some s =>
      reserve s.size
      let acc := acc ++ s
      if n = 0 then return acc
      else joinElements t separator (i + 1) (acc ++ separator) n

/-! ### Sorting -/

/-- What is sorted, and how. -/
structure Sorting where
  sequence : Value
  /-- The comparison function; nil for the usual order. -/
  before : Value

namespace Sorting

/-- The element at an index. -/
def get (s : Sorting) (i : Nat) : Action Value := getKey s.sequence (.int (Int64.ofNat i))

/-- Stores an element. -/
def set (s : Sorting) (i : Nat) (v : Value) : Action Unit :=
  setKey s.sequence (.int (Int64.ofNat i)) v

/-- Whether `a` comes before `b`. -/
def less (s : Sorting) (a b : Value) : Action Bool :=
  if s.before.isNil then precedes none false a b
  else do return ((← callPlain s.before [a, b]).headD .nil).isTruthy

/-- Gives up because the comparison contradicts itself. -/
def inconsistent {α : Type} : Action α := fail "invalid order function for sorting"

/-- The first index behind `i` whose element does not come before the pivot, with the element. -/
def scanUp (s : Sorting) (pivot : Value) (last : Nat) : Nat → Nat → Action (Nat × Value)
  | 0, _ => inconsistent
  | fuel + 1, i => do
    let i := i + 1
    let v ← s.get i
    if ← s.less v pivot then
      if i = last then inconsistent else scanUp s pivot last fuel i
    else return (i, v)

/-- The last index below `j` whose element the pivot does not come before, with the element. -/
def scanDown (s : Sorting) (pivot : Value) (i : Nat) : Nat → Nat → Action (Nat × Value)
  | 0, _ => inconsistent
  | fuel + 1, j => do
    let j := j - 1
    let v ← s.get j
    if ← s.less pivot v then
      if j < i then inconsistent else scanDown s pivot i fuel j
    else return (j, v)

/-- Moves the elements of an interval to the sides of a pivot, which stands at `up - 1`, and answers
where the pivot ends. -/
def split (s : Sorting) (pivot : Value) (up : Nat) : Nat → Nat → Nat → Action Nat
  | 0, _, _ => inconsistent
  | fuel + 1, i, j => do
    let (i, v) ← s.scanUp pivot (up - 1) (up + 2) i
    let (j, w) ← s.scanDown pivot i (up + 2) j
    if j < i then
      s.set (up - 1) v
      s.set i pivot
      return i
    else
      s.set i w
      s.set j v
      split s pivot up fuel i j

/-- Puts two elements in order: the one at `j` must not come before the one at `i`. -/
def order (s : Sorting) (i j : Nat) : Action Bool := do
  let a ← s.get i
  let b ← s.get j
  if ← s.less b a then
    s.set i b
    s.set j a
    return true
  else return false

/-- Sorts the elements from `lo` to `up`. -/
def sort (s : Sorting) : Nat → Nat → Nat → Action Unit
  | 0, _, _ => return ()
  | fuel + 1, lo, up => do
    if up ≤ lo then return ()
    let _ ← s.order lo up
    if up - lo = 1 then return ()
    let p := (lo + up) / 2
    let swapped ← s.order lo p
    if !swapped then
      let _ ← s.order p up
    if up - lo = 2 then return ()
    let pivot ← s.get p
    let v ← s.get (up - 1)
    s.set p v
    s.set (up - 1) pivot
    let p ← s.split pivot up (up - lo + 2) lo (up - 1)
    if p - lo < up - p then
      sort s fuel lo (p - 1)
      sort s fuel (p + 1) up
    else
      sort s fuel (p + 1) up
      sort s fuel lo (p - 1)

end Sorting

/-! ### The functions -/

/-- The most values that a function answers. -/
def resultLimit : Nat := 999000

/-- Runs a function on tables. -/
def table (f : TableFunction) (args : Args) : Action (List Value) :=
  match f with
  | .concat => do
    let t ← needSequence args 1 { reads := true, measures := true }
    let n ← lengthOf t
    let separator ← optBytes args 2 .empty
    let i ← optInt args 3 1
    let last ← optInt args 4 n
    if last < i then return [.str .empty]
    else return [.str (← joinElements t separator i .empty (distance i last + 1))]
  | .insert => do
    let t ← needSequence args 1 { reads := true, writes := true, measures := true }
    let e := (← lengthOf t) + 1
    match args.length with
    | 2 => do
      setKey t (.int e) (arg args 2)
      return []
    | 3 => do
      let pos ← needInt args 2
      if e.toUInt64 ≤ pos.toUInt64 - 1 then badArgument 2 "position out of bounds"
      else
        moveDown t t pos (pos + 1) (distance pos e)
        setKey t (.int pos) (arg args 3)
        return []
    | _ => fail "wrong number of arguments to 'insert'"
  | .move => do
    let f ← needInt args 2
    let e ← needInt args 3
    let t ← needInt args 4
    let target := if isAbsent args 5 then 1 else 5
    let source ← needSequence args 1 { reads := true }
    let goal ← needSequence args target { writes := true }
    if f ≤ e then
      if !(0 < f || e.toInt < 9223372036854775807 + f.toInt) then
        badArgument 3 "too many elements to move"
      else
        let n := distance f e + 1
        if 9223372036854775807 - (n : Int) + 1 < t.toInt then
          badArgument 4 "destination wrap around"
        else
          let apart ← if target = 1 then pure false else do pure !(← equal none source goal)
          if e < t || t ≤ f || apart then moveUp source goal f t n
          else moveDown source goal f t n
    return [goal]
  | .pack => do
    reserve (16 * args.length)
    let t : Table := .withRoom args.length 1
    let t := (args.foldl
      (fun (tn : Table × Int64) v ↦ (tn.1.setInt tn.2 v, tn.2 + 1)) (t, 1)).1
    let t := t.setText "n" (.int (Int64.ofNat args.length))
    return [.table (← modifyGet (·.newTable t))]
  | .remove => do
    let t ← needSequence args 1 { reads := true, writes := true, measures := true }
    let size ← lengthOf t
    let pos ← optInt args 2 size
    if 2 ≤ args.length && pos ≠ size && size.toUInt64 < pos.toUInt64 - 1 then
      badArgument 2 "position out of bounds"
    else
      let v ← getKey t (.int pos)
      moveUp t t (pos + 1) pos (distance pos size)
      setKey t (.int (if pos < size then size else pos)) .nil
      return [v]
  | .sort => do
    let t ← needSequence args 1 { reads := true, writes := true, measures := true }
    let n ← lengthOf t
    if 1 < n then
      if 2147483647 ≤ n then badArgument 1 "array too big"
      else
        let before ← if isAbsent args 2 then pure .nil else needFunction args 2
        Sorting.sort ⟨t, before⟩ n.toNatClampNeg 1 n.toNatClampNeg
        return []
    else return []
  | .unpack => do
    let t := arg args 1
    let i ← optInt args 2 1
    let e ← if isAbsent args 3 then lengthOf t else needInt args 3
    if e < i then return []
    else
      let n := distance i e + 1
      if resultLimit ≤ n then fail "too many results to unpack"
      else elements t i n

end MacroStream.Script.Library
