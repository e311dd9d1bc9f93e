import MacroStream.Json

/-!
# Tables of a settings file

A settings file is built table by table, and each table may be opened only once: by its header, by
dotted keys, or as a value between braces. A table remembers how it came to be, because that decides
who may still add to it.

* A table that only stood in the path of a header may still get a header of its own.
* A table opened by dotted keys may get further dotted keys, and nothing else.
* A table with a header, and a value, are closed to both.
-/

namespace MacroStream.Toml

/-- How a table came to be. -/
inductive Origin where
  /-- By its own header. -/
  | header
  /-- As a part of the path of a header. -/
  | path
  /-- As a part of a dotted key. -/
  | dotted
  deriving DecidableEq, Repr

/-- What a key stands for. -/
inductive Item where
  | value (v : Json)
  | table (origin : Origin) (entries : List (String × Item))
  /-- Tables with the same repeated header, the last one first. -/
  | tables (entries : List (List (String × Item)))

/-- The entries of a table, in the order in which they were made. -/
abbrev Entries := List (String × Item)

/-- The item of a key. -/
def get? (k : String) : Entries → Option Item
  | [] => none
  | (k', v) :: rest => if k = k' then some v else get? k rest

/-- Gives a key an item, in place of the item that it had. -/
def put (k : String) (v : Item) : Entries → Entries
  | [] => [(k, v)]
  | (k', v') :: rest => if k = k' then (k, v) :: rest else (k', v') :: put k v rest

/-- Changes the entries of the table at `path`, making the tables that are missing on the way. Of a
repeated table the last one is meant. -/
def alter (path : List String) (f : Entries → Option Entries) (es : Entries) : Option Entries :=
  match path with
  | [] => f es
  | k :: ks =>
    match get? k es with
    | none => do return put k (.table .path (← alter ks f [])) es
    | some (.table origin sub) => do return put k (.table origin (← alter ks f sub)) es
    | some (.tables (sub :: older)) => do return put k (.tables ((← alter ks f sub) :: older)) es
    | some _ => none

/-- Opens the table with the header `[k]`. -/
def openTable (k : String) (es : Entries) : Option Entries :=
  match get? k es with
  | none => some (put k (.table .header []) es)
  | some (.table .path sub) => some (put k (.table .header sub) es)
  | some _ => none

/-- Opens one more table with the header `[[k]]`. -/
def openRepeated (k : String) (es : Entries) : Option Entries :=
  match get? k es with
  | none => some (put k (.tables [[]]) es)
  | some (.tables older) => some (put k (.tables ([] :: older)) es)
  | some _ => none

/-- Gives a new key its value; the keys of `path` lead through tables that dotted keys opened. -/
def define (path : List String) (k : String) (v : Item) (es : Entries) : Option Entries :=
  match path with
  | [] => if (get? k es).isSome then none else some (put k v es)
  | p :: ps =>
    match get? p es with
    | none => do return put p (.table .dotted (← define ps k v [])) es
    | some (.table .dotted sub) => do return put p (.table .dotted (← define ps k v sub)) es
    | some (.table .path sub) =>
      if ps.isEmpty then none else do return put p (.table .path (← define ps k v sub)) es
    | some (.tables (sub :: older)) =>
      if ps.isEmpty then none else do return put p (.tables ((← define ps k v sub) :: older)) es
    | some _ => none

mutual

/-- An item as a value. -/
def Item.toJson : Item → Json
  | .value v => v
  | .table _ es => .obj (entriesToJson es)
  | .tables ts => .arr (tablesToJson ts).reverse

/-- The entries of a table as the fields of an object. -/
def entriesToJson : List (String × Item) → List (String × Json)
  | [] => []
  | (k, v) :: rest => (k, v.toJson) :: entriesToJson rest

/-- Tables as objects, in the same order. -/
def tablesToJson : List (List (String × Item)) → List Json
  | [] => []
  | t :: ts => .obj (entriesToJson t) :: tablesToJson ts

end

end MacroStream.Toml
