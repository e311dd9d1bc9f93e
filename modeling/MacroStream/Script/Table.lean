import MacroStream.Script.KeyOrder

/-!
# Tables

A table is a finite map from keys to values other than nil, with an order of its keys and possibly a
metatable. `get` and `set` are governed by the map alone; the order decides what `next?` lists and
which border `length` finds.
-/

namespace MacroStream.Script

/-- A table of a running script. -/
structure Table where
  entries : KeyMap := {}
  order : KeyOrder := {}
  /-- The address of the metatable. -/
  metatable : Option Nat := none

instance : Inhabited Table := ⟨{}⟩

namespace Table

/-- Whether a key has a value. -/
def live (t : Table) (k : Key) : Bool := (t.entries.find? k).isSome

/-- The value of a key; nil if it has none. -/
def get (t : Table) (k : Key) : Value := (t.entries.find? k).getD .nil

/-- The value of an integer key. -/
def getInt (t : Table) (n : Int64) : Value := t.get (.int n)

/-- The value of a key given by a text. -/
def getText (t : Table) (s : String) : Value := t.get (.str s.toUTF8)

/-- The value that a value finds in a table. -/
def getValue (t : Table) (v : Value) : Value :=
  match v.toKey? with
  | some k => t.get k
  | none => .nil

/-- Gives a key a value, or takes its value away if the value is nil. -/
def set (t : Table) (k : Key) (v : Value) : Table :=
  let ⟨entries, order, metatable⟩ := t
  match v with
  | .nil => ⟨entries.erase k, order, metatable⟩
  | v =>
    if (entries.find? k).isSome then ⟨entries.insert k v, order, metatable⟩
    else
      let order := order.insert (fun k ↦ (entries.find? k).isSome) k
      ⟨entries.insert k v, order, metatable⟩

/-- Gives an integer key a value. -/
def setInt (t : Table) (n : Int64) (v : Value) : Table := t.set (.int n) v

/-- Gives a key given by a text a value. -/
def setText (t : Table) (s : String) (v : Value) : Table := t.set (.str s.toUTF8) v

/-- An empty table with room for an array and for other keys. -/
def withRoom (arraySize slots : Nat) : Table :=
  { order := KeyOrder.emptySlots arraySize slots }

/-- The same table with room for an array of `n`. -/
def growArray (t : Table) (n : Nat) : Table :=
  if n ≤ t.order.arraySize then t
  else { t with order := t.order.resize t.live n t.order.slots.size }

/-- Whether an integer key has a value. -/
def liveInt (t : Table) (n : Nat) : Bool := t.live (.int (Int64.ofNat n))

/-- A border between `i` and `j`, where `i` has a value or is 0, and `j` has none. -/
def searchBorder (t : Table) : Nat → Nat → Nat → Nat
  | 0, i, _ => i
  | n + 1, i, j =>
    if j ≤ i + 1 then i
    else
      let m := (i + j) / 2
      if t.liveInt m then searchBorder t n m j else searchBorder t n i m

/-- A border behind `i`, found by doubling. -/
def doubleBorder (t : Table) : Nat → Nat → Nat
  | 0, i => i
  | n + 1, i =>
    let j := 2 * i
    if 9223372036854775807 < j then
      if t.liveInt 9223372036854775807 then 9223372036854775807
      else searchBorder t 64 i 9223372036854775807
    else if t.liveInt j then doubleBorder t n j
    else searchBorder t 64 i j

/-- A border: an index with a value whose successor has none, or 0 if the first index has none. -/
def border (t : Table) : Nat :=
  let limit := t.order.arraySize
  if 0 < limit && !t.liveInt limit then
    if 2 ≤ limit && t.liveInt (limit - 1) then limit - 1 else searchBorder t 64 0 limit
  else if t.liveInt (limit + 1) then doubleBorder t 64 (max limit 1)
  else limit

/-- The length without a look at the metatable. -/
def length (t : Table) : Int64 := Int64.ofNat t.border

/-- The first key with a value behind a key, or from the start; `none` for a key that is not
listed. -/
def next? (t : Table) (after : Option Key) : Option (Option (Key × Value)) :=
  let start? := match after with
    | none => some 0
    | some k => t.order.position? k
  start?.map fun i ↦
    (t.order.nextLive t.live (t.order.places - i + 1) i).map fun k ↦ (k, t.get k)

/-- The keys with their values, in order. -/
def toList (t : Table) : List (Key × Value) :=
  (List.range t.order.places).filterMap fun i ↦
    (t.order.keyAt? i).bind fun k ↦ if t.live k then some (k, t.get k) else none

end Table

end MacroStream.Script
