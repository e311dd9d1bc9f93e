import MacroStream.Json
import MacroStream.Script.Heap
import MacroStream.Text.Utf8

/-!
# Values that cross between scripts and the host

The host sees JSON, a script sees values. A table that has a first item, or that came from the host
as an array, is an array up to its first nil; any other table is an object, whose keys have to be
strings. Metatables say nothing here, the one that marks arrays apart. What has no meaning outside
of the interpreter is refused with an `ExchangeFault`, and so is a table that holds itself.

In the other direction nothing is refused: null becomes nil, an array becomes a table that is marked
as one, and a whole number that no integer can hold becomes a floating-point number.
-/

namespace MacroStream.Script

/-- Why a value has no JSON. -/
inductive ExchangeFault where
  /-- A value of a type that has no counterpart. -/
  | unsupported (type : String)
  /-- A string that is no text. -/
  | notText
  /-- A table that holds itself. -/
  | recursive
  /-- The first key of an object that is no string. -/
  | firstKey (found : String)
  /-- A later key of an object that is no string. -/
  | laterKey (found : String)
  /-- A later key of an object that is no text. -/
  | laterKeyText
  deriving DecidableEq, Repr

/-- The text shown for a fault. -/
def ExchangeFault.message (f : ExchangeFault) : String :=
  "deserialize error: " ++
    match f with
    | unsupported type => "unsupported value type `" ++ type ++ "`"
    | notText => "invalid type: byte array, expected any valid JSON value"
    | recursive => "recursive table detected"
    | firstKey found => "invalid type: " ++ found ++ ", expected a string key"
    | laterKey found => "invalid type: " ++ found ++ ", expected a string"
    | laterKeyText => "invalid value: byte array, expected a string"

namespace Exchange

/-- The digits of a floating-point number, always positional and with a point. -/
def plainStyle : Decimal.FloatStyle := ⟨-400, 400⟩

/-- How messages write a floating-point number. -/
def floatText (x : Float) : String :=
  (plainStyle.text? x).getD (if x.isNaN then "NaN" else if x < 0 then "-inf" else "inf")

/-- The name of the type of a value in messages. -/
def typeName (h : Heap) (v : Value) : String :=
  match v with
  | .userdata a =>
    match h.object? a with
    | some (.hostError _) => "error"
    | _ => "userdata"
  | v => v.typeName

/-- Whether a table came from the host as an array. -/
def isMarked (h : Heap) (a : Nat) : Bool := (h.table a).metatable == some h.registry.arrayMeta

/-- Whether a table is an array. -/
def isArray (h : Heap) (a : Nat) : Bool := 0 < (h.table a).length || isMarked h a

/-- The items of a table up to its first nil, at most `fuel` of them from number `i` on. -/
def items (t : Table) : Nat → Int64 → List Value
  | 0, _ => []
  | fuel + 1, i =>
    match t.getInt i with
    | .nil => []
    | v => v :: items t fuel (i + 1)

/-- Refuses a table that is being looked through already. -/
def refuseRecursion (path : List Nat) (v : Value) : Except ExchangeFault Unit :=
  match v with
  | .table a => if path.contains a then .error .recursive else .ok ()
  | _ => .ok ()

/-- The text of the key of an object. -/
def keyText (h : Heap) (isFirst : Bool) (k : Value) : Except ExchangeFault String :=
  let wrong (found : String) : Except ExchangeFault String :=
    .error (if isFirst then .firstKey found else .laterKey found)
  match k with
  | .str s =>
    match Text.decode? s with
    | some t => .ok t
    | none => if isFirst then .error (.firstKey "byte array") else .error .laterKeyText
  | .nil => wrong "unit value"
  | .bool b => wrong ("boolean `" ++ (if b then "true" else "false") ++ "`")
  | .int n => wrong ("integer `" ++ Int.repr n.toInt ++ "`")
  | .float x => wrong ("floating point `" ++ floatText x ++ "`")
  | .table a => wrong (if isArray h a then "sequence" else "map")
  | v => .error (.unsupported (typeName h v))

mutual

/-- The JSON of a value that stands inside the tables of `path`, with at most `fuel` tables inside
each other. -/
def toJson (h : Heap) : Nat → List Nat → Value → Except ExchangeFault Json
  | _, _, .nil => .ok .null
  | _, _, .bool b => .ok (.bool b)
  | _, _, .int n => .ok (.int n.toInt)
  | _, _, .float x => .ok (.ofFloat x)
  | _, _, .str s =>
    match Text.decode? s with
    | some t => .ok (.str t)
    | none => .error .notText
  | 0, _, .table _ => .error .recursive
  | fuel + 1, path, .table a =>
    let t := h.table a
    if isArray h a then do
      return .arr (← toItems h fuel (a :: path) (items t (t.entries.size + 1) 1))
    else do
      return .obj (← toFields h fuel (a :: path) true (t.toList.map fun (k, v) ↦ (k.toValue, v)))
  | _, _, v => .error (.unsupported (typeName h v))
  termination_by fuel _ _ => (fuel, 0)

/-- The JSON of the items of an array. -/
def toItems (h : Heap) (fuel : Nat) (path : List Nat) : List Value → Except ExchangeFault (List Json)
  | [] => .ok []
  | v :: vs => do
    refuseRecursion path v
    let j ← toJson h fuel path v
    return j :: (← toItems h fuel path vs)
  termination_by vs => (fuel, vs.length + 1)

/-- The JSON of the fields of an object; `isFirst` says whether none came before. -/
def toFields (h : Heap) (fuel : Nat) (path : List Nat) (isFirst : Bool) :
    List (Value × Value) → Except ExchangeFault (List (String × Json))
  | [] => .ok []
  | (k, v) :: rest => do
    refuseRecursion path k
    refuseRecursion path v
    let name ← keyText h isFirst k
    let j ← toJson h fuel path v
    return (name, j) :: (← toFields h fuel path false rest)
  termination_by fs => (fuel, fs.length + 1)

end

end Exchange

/-- The JSON of a value. -/
def Heap.toJson (h : Heap) (v : Value) : Except ExchangeFault Json :=
  Exchange.toJson h (h.tables.size + 1) [] v

/-- The JSON of values in order; the first that has none decides. -/
def Heap.toJsonList (h : Heap) : List Value → Except ExchangeFault (List Json)
  | [] => .ok []
  | v :: vs => do
    let j ← h.toJson v
    return j :: (← toJsonList h vs)

namespace Exchange

/-- The number that a whole number becomes. -/
def ofWhole (n : Int) : Value :=
  if Json.fitsInt64 n then .int n.toInt64 else .float (Float.ofInt n)

mutual

/-- The value of JSON, with the tables it needs. -/
def ofJson : Json → Heap → Value × Heap
  | .null, h => (.nil, h)
  | .bool b, h => (.bool b, h)
  | .int n, h => (ofWhole n, h)
  | .float x, h => (.float x, h)
  | .str s, h => (.ofString s, h)
  | .arr js, h =>
    let (a, h) := h.newTable {}
    let h := ofItems a 1 js h
    let array := h.registry.arrayMeta
    (.table a, h.modifyTable a fun t ↦ { t with metatable := some array })
  | .fields es, h =>
    let (a, h) := h.newTable {}
    (.table a, ofFields a es h)

/-- Puts items into a table from number `i` on. -/
def ofItems (a : Nat) (i : Int64) : List Json → Heap → Heap
  | [], h => h
  | j :: js, h =>
    let (v, h) := ofJson j h
    ofItems a (i + 1) js (h.rawSet a (.int i) v)

/-- Puts fields into a table. -/
def ofFields (a : Nat) : List (String × Json) → Heap → Heap
  | [], h => h
  | (k, j) :: rest, h =>
    let (v, h) := ofJson j h
    ofFields a rest (h.setField a k v)

end

end Exchange

/-- The value of JSON. -/
def Heap.ofJson (j : Json) (h : Heap) : Value × Heap := Exchange.ofJson j h

end MacroStream.Script
