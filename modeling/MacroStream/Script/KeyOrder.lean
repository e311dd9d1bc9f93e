import MacroStream.Script.KeyMap

/-!
# The order of the keys of a table

Scripts can see in which order a table lists its keys, so the order is part of the language. It comes
from how keys are spread over slots:

* the integers from 1 up to `arraySize` come first, in order;
* the other keys follow in the order of their slots. A key wants the slot that its hash gives, its
  *main position*. If another key is there that is not at its own main position, that key makes way
  to a free slot, otherwise the new key takes the free slot. Free slots are given out from the end.
* When no slot is free, array and slots are made anew: the array is the largest power of two more
  than half full, and the slots are the least power of two that holds the other keys.

A key keeps its slot when it loses its value, until another key takes it or the slots are made anew.
What a table holds is said elsewhere; here `live` tells whether a key has a value.
-/

namespace MacroStream.Script

/-- A slot: the key in it, and how far away the next slot of its chain is; 0 at the end. -/
structure Slot where
  key : Option Key := none
  next : Int := 0

instance : Inhabited Slot := ⟨{}⟩

/-- The order of keys. -/
structure KeyOrder where
  arraySize : Nat := 0
  slots : Array Slot := #[]
  /-- All slots from here on have been given out. -/
  lastFree : Nat := 0

namespace KeyOrder

/-- The remainder for keys whose low bits are not random. -/
def spread (n size : Nat) : Nat := n % (if size ≤ 1 then 1 else size - 1)

/-- A hash of a number without an integral value: from its exponent and its leading digits. -/
def floatHash (bits : UInt64) : Nat :=
  let (mantissa, exponent) := (Float.ofBits bits).frExp
  let n := mantissa * 2147483648.0
  match Num.exactInt? n.floor with
  | some k =>
    let u := (exponent.toInt32.toUInt32 + k.toInt32.toUInt32).toNat
    if u ≤ 2147483647 then u else 4294967295 - u
  | none => 0

/-- The slot that a key wants among `size` slots. -/
def mainPosition (size : Nat) : Key → Nat
  | .bool b => (if b then 1 else 0) % size
  | .int n => spread n.toUInt64.toNat size
  | .float bits => spread (floatHash bits) size
  | .str s => (hashBytes s).toNat % size
  | k => spread k.hash.toNat size

/-- The slot of a key, searched along the chain from slot `i`. -/
def searchChain (o : KeyOrder) (k : Key) : Nat → Nat → Option Nat
  | 0, _ => none
  | n + 1, i =>
    let s := o.slots.getD i {}
    if s.key = some k then some i
    else if s.next = 0 then none
    else searchChain o k n (i + s.next).toNat

/-- The slot of a key. -/
def find? (o : KeyOrder) (k : Key) : Option Nat :=
  if o.slots.size = 0 then none
  else searchChain o k (o.slots.size + 1) (mainPosition o.slots.size k)

/-- Whether the array takes a key. -/
def inArray (o : KeyOrder) : Key → Bool
  | .int n => 1 ≤ n && n.toInt.toNat ≤ o.arraySize
  | _ => false

/-- The last slot below `i` that no key was given. -/
def freeBelow (o : KeyOrder) : Nat → Option Nat
  | 0 => none
  | i + 1 => if (o.slots.getD i {}).key.isNone then some i else freeBelow o i

/-- The slot before slot `i` in the chain that starts at slot `j`. -/
def before (o : KeyOrder) (i : Nat) : Nat → Nat → Nat
  | 0, j => j
  | n + 1, j =>
    let k := ((j : Int) + (o.slots.getD j {}).next).toNat
    if k = i then j else before o i n k

/-- Sets the distance to the next slot of a chain. -/
def setNext (slots : Array Slot) (i : Nat) (next : Int) : Array Slot :=
  slots.modify i fun s ↦ { s with next }

/-- Puts a new key into a slot, and says whether there was one. -/
def place (live : Key → Bool) (k : Key) (o : KeyOrder) : KeyOrder × Bool :=
  let size := o.slots.size
  if size = 0 then (o, false)
  else
    let main := mainPosition size k
    let there := o.slots.getD main {}
    if there.key.all fun other ↦ !live other then
      ({ o with slots := o.slots.modify main fun s ↦ { s with key := some k } }, true)
    else
      match freeBelow o o.lastFree with
      | none => (o, false)
      | some free =>
        let otherMain := (there.key.map (mainPosition size)).getD main
        if otherMain ≠ main then
          -- The other key makes way, and its chain with it.
          let prev := before o main (size + 1) otherMain
          let moved : Slot :=
            ⟨there.key, if there.next = 0 then 0 else there.next + ((main : Int) - free)⟩
          let slots := setNext o.slots prev ((free : Int) - prev)
          let slots := (slots.setIfInBounds free moved).setIfInBounds main ⟨some k, 0⟩
          (⟨o.arraySize, slots, free⟩, true)
        else
          let next : Int := if there.next = 0 then 0 else (main : Int) + there.next - free
          let slots := setNext o.slots main ((free : Int) - main)
          (⟨o.arraySize, slots.setIfInBounds free ⟨some k, next⟩, free⟩, true)

/-- The exponent of the least power of two that is at least `n`. -/
def ceilLog2 (n : Nat) : Nat := if n ≤ 1 then 0 else (n - 1).log2 + 1

/-- Slots for `n` keys, all free. -/
def emptySlots (arraySize n : Nat) : KeyOrder :=
  let size := if n = 0 then 0 else 2 ^ ceilLog2 n
  { arraySize, slots := Array.replicate size {}, lastFree := size }

/-- Counts an integer key among those between two powers of two. -/
def countKey (counts : Array Nat) : Key → Array Nat
  | .int n => if 1 ≤ n then counts.modify (ceilLog2 n.toInt.toNat) (· + 1) else counts
  | _ => counts

/-- The largest power of two that is more than half used by keys, and how many keys it takes.
`counts` says how many keys lie between two powers, `total` how many there are. -/
def bestArray (counts : Array Nat) (total : Nat) : Nat → Nat → Nat → Nat × Nat → Nat × Nat
  | 0, _, _, best => best
  | n + 1, i, sum, best =>
    if total ≤ 2 ^ i / 2 then best
    else
      let sum := sum + counts.getD i 0
      bestArray counts total n (i + 1) sum (if 2 ^ i / 2 < sum then (2 ^ i, sum) else best)

/-- The keys with a value: those of the array and those of the slots. -/
def liveKeys (live : Key → Bool) (o : KeyOrder) : List Key × List Key :=
  let inArray := (List.range o.arraySize).filterMap fun i ↦
    let k := Key.int (Int64.ofNat (i + 1))
    if live k then some k else none
  (inArray, o.slots.toList.filterMap fun s ↦ s.key.filter live)

/-- Puts a key in that has no slot, when there is room for it. -/
def placeKey (o : KeyOrder) (k : Key) : KeyOrder :=
  if o.inArray k then o else (place (fun _ ↦ true) k o).1

/-- New array and slots with room for the keys with a value and for `extra` more slots. -/
def resize (live : Key → Bool) (arraySize slotCount : Nat) (o : KeyOrder) : KeyOrder :=
  let (arrayKeys, slotKeys) := liveKeys live o
  let fresh := emptySlots arraySize slotCount
  ((arrayKeys.filter fun k ↦ !fresh.inArray k) ++ slotKeys).foldl placeKey fresh

/-- New array and slots, by the keys with a value and the new key `k`. -/
def rehash (live : Key → Bool) (k : Key) (o : KeyOrder) : KeyOrder :=
  let (arrayKeys, slotKeys) := liveKeys live o
  let all := k :: (arrayKeys ++ slotKeys)
  let counts := all.foldl countKey (Array.replicate 65 0)
  let total := counts.foldl (· + ·) 0
  let (arraySize, inArray) := bestArray counts total 64 0 0 (0, 0)
  resize live arraySize (all.length - inArray) o

/-- The order with a new key. -/
def insert (live : Key → Bool) (k : Key) (o : KeyOrder) : KeyOrder :=
  if o.inArray k || (o.find? k).isSome then o
  else
    let (o, placed) := place live k o
    if placed then o else placeKey (rehash live k o) k

/-- The place of a key in the order, counted from 1. -/
def position? (o : KeyOrder) : Key → Option Nat
  | .int n => if o.inArray (.int n) then some n.toInt.toNat else slotPosition (.int n)
  | k => slotPosition k
where
  /-- The place of a key that has a slot. -/
  slotPosition (k : Key) : Option Nat := (o.find? k).map fun i ↦ o.arraySize + i + 1

/-- The key at a place, counted from 0. -/
def keyAt? (o : KeyOrder) (i : Nat) : Option Key :=
  if i < o.arraySize then some (.int (Int64.ofNat (i + 1)))
  else (o.slots.getD (i - o.arraySize) {}).key

/-- How many places there are. -/
def places (o : KeyOrder) : Nat := o.arraySize + o.slots.size

/-- The first key with a value at place `i` or behind it. -/
def nextLive (live : Key → Bool) (o : KeyOrder) : Nat → Nat → Option Key
  | 0, _ => none
  | n + 1, i =>
    match o.keyAt? i with
    | some k => if live k then some k else nextLive live o n (i + 1)
    | none => nextLive live o n (i + 1)

end KeyOrder

end MacroStream.Script
