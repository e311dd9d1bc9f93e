import MacroStream.Json
import MacroStream.Text.Quoted

/-!
# Typed data from JSON values

A record is described by its fields, each with a way to take its value from a JSON value and whether
it may be left out. Records are read from objects, where unknown fields are ignored and the fields
present are looked at in the order of their names, and from arrays, whose items are the fields in
the order of the description.
-/

namespace MacroStream.Json

/-- Why a JSON value does not describe the wanted data. -/
inductive DecodeError where
  | missingField (name : String)
  /-- A value of the wrong kind. -/
  | invalidType (found expected : String)
  /-- A value of the right kind that is out of range. -/
  | invalidValue (found expected : String)
  | invalidLength (length : Nat) (expected : String)
  | unknownVariant (name : String) (variants : List String)
  deriving DecidableEq, Repr

namespace DecodeError

/-- Names between backquotes, the last two joined by "or". -/
def oneOf (names : List String) : String :=
  match names.map fun n ↦ "`" ++ n ++ "`" with
  | [] => "nothing"
  | [a] => a
  | [a, b] => a ++ " or " ++ b
  | many => "one of " ++ ", ".intercalate many

/-- The text shown for an error. -/
def message : DecodeError → String
  | missingField name => "missing field `" ++ name ++ "`"
  | invalidType found expected => "invalid type: " ++ found ++ ", expected " ++ expected
  | invalidValue found expected => "invalid value: " ++ found ++ ", expected " ++ expected
  | invalidLength n expected => "invalid length " ++ Nat.repr n ++ ", expected " ++ expected
  | unknownVariant name variants => "unknown variant `" ++ name ++ "`, expected " ++ oneOf variants

end DecodeError

/-- The result of reading data from a JSON value. -/
abbrev Decoded (α : Type) := Except DecodeError α

/-- How an error names the value it found. -/
def describe : Json → String
  | null => "null"
  | bool b => "boolean `" ++ (if b then "true" else "false") ++ "`"
  | int n => "integer `" ++ Int.repr n ++ "`"
  | float x => "floating point `" ++ floatText x ++ "`"
  | str s => "string " ++ Text.quoted s
  | arr _ => "sequence"
  | fields _ => "map"

/-- Fails because `v` is not of the expected kind. -/
def mismatch {α : Type} (v : Json) (expected : String) : Decoded α :=
  .error (.invalidType v.describe expected)

/-- A text. -/
def text : Json → Decoded String
  | str s => .ok s
  | v => mismatch v "a string"

/-- A truth value. -/
def truth : Json → Decoded Bool
  | bool b => .ok b
  | v => mismatch v "a boolean"

/-- A whole number between `low` and `high`; `kind` names the range. -/
def whole (kind : String) (low high : Int) : Json → Decoded Int
  | int n => if low ≤ n && n ≤ high then .ok n else .error (.invalidValue (int n).describe kind)
  | v => mismatch v kind

/-- A list of texts. -/
def texts : Json → Decoded (List String)
  | arr items => items.mapM text
  | v => mismatch v "a sequence"

/-- A field of a record of type `ρ`. -/
structure Field (ρ : Type) where
  name : String
  /-- Whether the field has to be there. -/
  required : Bool
  /-- Takes the field's value from a JSON value and stores it. -/
  store : Json → ρ → Decoded ρ

namespace Field

variable {ρ α : Type}

/-- A field that may be left out. -/
def optional (name : String) (read : Json → Decoded α) (put : α → ρ → ρ) : Field ρ :=
  ⟨name, false, fun v r ↦ do return put (← read v) r⟩

/-- A field that has to be there. -/
def needed (name : String) (read : Json → Decoded α) (put : α → ρ → ρ) : Field ρ :=
  ⟨name, true, fun v r ↦ do return put (← read v) r⟩

end Field

variable {ρ : Type}

/-- Stores the named values in their order; names that no field has are ignored. -/
def storeFields (spec : List (Field ρ)) : List (String × Json) → ρ → Decoded ρ
  | [], r => .ok r
  | (k, v) :: rest, r =>
    match spec.find? (·.name == k) with
    | some f => do storeFields spec rest (← f.store v r)
    | none => storeFields spec rest r

/-- What is done with the items of an array behind those that are fields of a record. -/
inductive Surplus where
  | refused
  | ignored
  deriving DecidableEq, Repr

/-- Stores `items` into the fields in turn, the first of which is number `index`. -/
def storeItems (surplus : Surplus) (expected : String) (index : Nat) :
    List (Field ρ) → List Json → ρ → Decoded ρ
  | [], [], r => .ok r
  | [], items, r =>
    match surplus with
    | .refused => .error (.invalidLength (index + items.length) "fewer elements in array")
    | .ignored => .ok r
  | f :: fs, [], r =>
    if f.required then .error (.invalidLength index expected)
    else storeItems surplus expected (index + 1) fs [] r
  | f :: fs, v :: vs, r => do storeItems surplus expected (index + 1) fs vs (← f.store v r)

/-- Reads a record; `initial` holds the values of the fields that are left out. -/
def record (surplus : Surplus) (name : String) (spec : List (Field ρ)) (initial : ρ) :
    Json → Decoded ρ
  | fields entries => do
    let r ← storeFields spec entries initial
    match spec.find? fun f ↦ f.required && (field? f.name entries).isNone with
    | some f => .error (.missingField f.name)
    | none => .ok r
  | arr items =>
    let expected := "struct " ++ name ++ " with " ++ Nat.repr spec.length ++ " elements"
    storeItems surplus expected 0 spec items initial
  | v => mismatch v ("struct " ++ name)

/-- A choice among named variants, given by name, or as an object with one field of that name which
holds nothing. -/
def variant (names : List String) : Json → Decoded String
  | str s => known s
  | fields [(k, v)] => do
    let name ← known k
    match v with
    | null => .ok name
    | v => mismatch v "unit"
  | fields _ => .error (.invalidValue "map" "map with a single key")
  | v => mismatch v "string or map"
where
  /-- The name, if it is one of the variants. -/
  known (s : String) : Decoded String :=
    if names.contains s then .ok s else .error (.unknownVariant s names)

end MacroStream.Json
