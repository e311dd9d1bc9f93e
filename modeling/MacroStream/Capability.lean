import MacroStream.Error
import MacroStream.Json
import MacroStream.Store

/-!
# What a host lends to scripts

A capability is a named group of operations on JSON values. A registry lists capabilities in the
order of their registration, which is also the order in which a script sees them bound. Services are
plain values under distinct names.

Operations run in a monad of the host's choice, so that a host may keep a state of its own.
-/

namespace MacroStream

/-- A named group of operations. -/
structure Capability (m : Type → Type) where
  name : String
  /-- The names of the operations, in order. -/
  operations : List String
  /-- Runs the operation of a name on its arguments. -/
  invoke : String → List Json → m (Outcome Json)

namespace Capability

variable {m : Type → Type} [Monad m]

/-- The error for an operation that a capability does not have. -/
def undefined (capability operation : String) : EngineError :=
  .scriptRuntime (capability ++ "." ++ operation ++ " is not defined")

/-- The capability with the given operations; of two with one name the first is run. -/
def ofOperations (name : String) (ops : List (String × (List Json → m (Outcome Json)))) :
    Capability m where
  name
  operations := ops.map Prod.fst
  invoke op args :=
    match ops.lookup op with
    | some run => run args
    | none => return .error (undefined name op)

/-- The name of the capability that the engine itself provides. -/
def internalName : String := "Internal"

/-- The operations of the capability that the engine itself provides. -/
def internalOperations : List String := ["GetMacroText", "ListFunctions"]

/-- The text of the stored macro that the first argument names; null if there is none. -/
def getMacroText (store : StoredMacros) (args : List Json) : Outcome Json :=
  match args with
  | .str name :: _ => .ok ((store.get? name).elim .null .str)
  | _ => .error (.scriptRuntime "GetMacroText expects a macro name")

/-- Access to the stored macros, and a list of all functions. -/
def internal (store : StoredMacros) (functions : List String) : Capability m where
  name := internalName
  operations := internalOperations
  invoke op args :=
    return match op with
      | "GetMacroText" => getMacroText store args
      | "ListFunctions" => .ok (.arr (functions.map .str))
      | op => .error (undefined internalName op)

/-- The operations with the name of their capability in front. -/
def functions (c : Capability m) : List String := c.operations.map fun op ↦ c.name ++ "." ++ op

end Capability

/-- The capabilities of a host, in the order of their registration. -/
structure CapabilityRegistry (m : Type → Type) where
  capabilities : List (Capability m)

namespace CapabilityRegistry

variable {m : Type → Type}

/-- A registry without capabilities. -/
def empty : CapabilityRegistry m := ⟨[]⟩

/-- The registry with one more capability. -/
def register (r : CapabilityRegistry m) (c : Capability m) : CapabilityRegistry m :=
  ⟨r.capabilities ++ [c]⟩

/-- How many capabilities there are. -/
def size (r : CapabilityRegistry m) : Nat := r.capabilities.length

/-- Whether there are no capabilities. -/
def isEmpty (r : CapabilityRegistry m) : Bool := r.capabilities.isEmpty

/-- All operations, each with the name of its capability in front. -/
def listFunctions (r : CapabilityRegistry m) : List String :=
  r.capabilities.flatMap Capability.functions

/-- The registry with the engine's own capability behind the others, which lists itself, too. -/
def withInternal [Monad m] (r : CapabilityRegistry m) (store : StoredMacros) :
    CapabilityRegistry m :=
  let own := Capability.internalOperations.map fun op ↦ Capability.internalName ++ "." ++ op
  r.register (Capability.internal store (r.listFunctions ++ own))

end CapabilityRegistry

/-- Values under distinct names, in the order in which the names came. -/
structure HostServices where
  services : List (String × Json)

namespace HostServices

/-- No values. -/
def empty : HostServices := ⟨[]⟩

/-- Replaces the value of a name, or puts the name behind all others. -/
def insertEntry (name : String) (value : Json) : List (String × Json) → List (String × Json)
  | [] => [(name, value)]
  | (n, v) :: rest =>
    if n = name then (n, value) :: rest else (n, v) :: insertEntry name value rest

/-- The services with `value` under `name`. -/
def insert (s : HostServices) (name : String) (value : Json) : HostServices :=
  ⟨insertEntry name value s.services⟩

/-- The names, in the order in which they came. -/
def names (s : HostServices) : List String := s.services.map Prod.fst

/-- The services inserted one after the other. -/
def ofList (entries : List (String × Json)) : HostServices :=
  entries.foldl (fun s (name, value) ↦ s.insert name value) empty

end HostServices

end MacroStream
