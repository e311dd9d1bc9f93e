import MacroStream.Script.Value

/-!
# Finite maps from keys

A hash table with chains: the bucket of a key is given by its hash, and a bucket is a list of
entries with distinct keys. What a map holds is said by `find?`; how the entries lie in the buckets
is nobody's business, and no order of entries can be seen through it.
-/

namespace MacroStream.Script

/-- A hash of bytes that looks at the first ones and the length. -/
def hashBytes (s : ByteArray) : UInt64 :=
  go 32 0 (14695981039346656037 ^^^ s.size.toUInt64)
where
  /-- Goes on at index `i`. -/
  go : Nat → Nat → UInt64 → UInt64
    | 0, _, h => h
    | n + 1, i, h =>
      if hi : i < s.size then go n (i + 1) ((h ^^^ s[i].toUInt64) * 1099511628211) else h

namespace Key

/-- The hash of a key. -/
def hash : Key → UInt64
  | bool b => if b then 1 else 2
  | int n => n.toUInt64
  | float bits => bits ^^^ (bits >>> 32)
  | str s =>
    let h := hashBytes s
    h ^^^ (h >>> 29)
  | table a => a.toUInt64 * 8 + 3
  | function a => a.toUInt64 * 8 + 4
  | primitive f => hashBytes f.qualifiedName.toUTF8
  | thread a => a.toUInt64 * 8 + 5
  | userdata a => a.toUInt64 * 8 + 6

end Key

/-- A finite map from keys. -/
structure KeyMap where
  buckets : Array (List (Key × Value)) := #[]
  /-- How many keys have a value. -/
  size : Nat := 0

namespace KeyMap

/-- The value of a key in a bucket. -/
def findIn (k : Key) : List (Key × Value) → Option Value
  | [] => none
  | (k', v) :: rest => if k' = k then some v else findIn k rest

/-- Gives a key a value in a bucket. -/
def setIn (k : Key) (v : Value) : List (Key × Value) → List (Key × Value)
  | [] => [(k, v)]
  | (k', v') :: rest => if k' = k then (k, v) :: rest else (k', v') :: setIn k v rest

/-- Takes a key out of a bucket. -/
def eraseIn (k : Key) : List (Key × Value) → List (Key × Value)
  | [] => []
  | (k', v') :: rest => if k' = k then rest else (k', v') :: eraseIn k rest

/-- The bucket of a key. -/
def slot (m : KeyMap) (k : Key) : Nat := k.hash.toNat % m.buckets.size

/-- The value of a key. -/
def find? (m : KeyMap) (k : Key) : Option Value := findIn k (m.buckets.getD (m.slot k) [])

/-- Puts an entry into its bucket. -/
def place (buckets : Array (List (Key × Value))) (k : Key) (v : Value) :
    Array (List (Key × Value)) :=
  buckets.modify (k.hash.toNat % buckets.size) fun b ↦ (k, v) :: b

/-- The entries of a map. -/
def toList (m : KeyMap) : List (Key × Value) := m.buckets.toList.flatten

/-- The same map in `n` buckets. -/
def rebucket (m : KeyMap) (n : Nat) : KeyMap :=
  let put (bs : Array (List (Key × Value))) (b : List (Key × Value)) :=
    b.foldl (fun bs (k, v) ↦ place bs k v) bs
  { m with buckets := m.buckets.foldl put (Array.replicate n []) }

/-- The same map with room for one more entry. -/
def grow (m : KeyMap) : KeyMap :=
  if m.buckets.size = 0 then m.rebucket 4
  else if m.buckets.size ≤ m.size then m.rebucket (2 * m.buckets.size)
  else m

/-- The map in which `k` has the value `v`. -/
def insert (m : KeyMap) (k : Key) (v : Value) : KeyMap :=
  if (m.find? k).isSome then
    let i := m.slot k
    { m with buckets := m.buckets.modify i (setIn k v) }
  else
    let m := m.grow
    { buckets := place m.buckets k v, size := m.size + 1 }

/-- The map in which `k` has no value. -/
def erase (m : KeyMap) (k : Key) : KeyMap :=
  if (m.find? k).isSome then
    let i := m.slot k
    { buckets := m.buckets.modify i (eraseIn k), size := m.size - 1 }
  else m

end KeyMap

end MacroStream.Script
