import MacroStream.Diagnostic
import MacroStream.Script.Interpreter
import MacroStream.ScriptHost

/-!
# Binding a host's capabilities

Every capability becomes a table of functions under its name, and every operation a function of its
own name besides, where that name is free. The tables come in the order of registration and replace
whatever had their name; services come last and replace everything.

What is bound is first planned, knowing only which names are taken, and then carried out.

The global table is read and written as it is, without a look at a metatable. It has none when the
program binds, as no script has run by then but the one that defines the function for interpolation.
-/

namespace MacroStream.Script

/-- One step of binding. -/
inductive BindingStep where
  /-- Binds an operation of the capability at a position; `isFree` says that its name is. -/
  | operation (capability : Nat) (owner name : String) (isFree : Bool)
  /-- Sets the table of the capability at a position; `isFree` says that its name is. -/
  | group (capability : Nat) (name : String) (isFree : Bool)
  | service (name : String) (value : Json)

namespace BindingStep

/-- What is taken when one more name is. -/
def take (taken : String → Bool) (name : String) : String → Bool := fun n ↦ n == name || taken n

/-- The steps for the operations of a capability, and the names that are taken behind them. -/
def ofOperations (index : Nat) (owner : String) (taken : String → Bool) :
    List String → List BindingStep × (String → Bool)
  | [] => ([], taken)
  | op :: ops =>
    let (steps, behind) := ofOperations index owner (take taken op) ops
    (.operation index owner op (!taken op) :: steps, behind)

/-- The steps for capabilities, the first of which has the position `index`. -/
def ofCapabilities (index : Nat) (taken : String → Bool) :
    List (String × List String) → List BindingStep
  | [] => []
  | (name, ops) :: rest =>
    let (steps, taken) := ofOperations index name taken ops
    steps ++ .group index name (!taken name) :: ofCapabilities (index + 1) (take taken name) rest

/-- The steps for services. -/
def ofServices (s : HostServices) : List BindingStep :=
  s.services.map fun (name, value) ↦ .service name value

/-- What a step reports, in order. -/
def reports : BindingStep → List Diagnostic
  | operation _ owner name isFree =>
    let details := [("capability", Detail.quoted owner), ("operation", Detail.plain name)]
    ⟨.debug, .bindings, "Adding Lua function", details⟩ ::
      if isFree then []
      else [⟨.warn, .bindings, "Global already defined, only the grouped binding is available",
        details⟩]
  | group _ name isFree =>
    if isFree then []
    else [⟨.warn, .bindings, "Global already defined, replacing it with the capability table",
      [("capability", .quoted name)]⟩]
  | service .. => []

end BindingStep

namespace Binding

/-- The names and operations of capabilities. -/
def outline {m : Type → Type} (r : CapabilityRegistry m) : List (String × List String) :=
  r.capabilities.map fun c ↦ (c.name, c.operations)

/-- Whether a global variable has a value in the global table itself. -/
def isTaken (h : Heap) (name : String) : Bool := !(h.getField h.registry.globals name).isNil

/-- Carries out a step. `group` is the table of the capability whose operations are being bound.
Global variables are set in the global table itself. -/
def perform (group : Nat) (h : Heap) : BindingStep → Nat × Heap
  | .operation index _ name isFree =>
    let (f, h) := h.newFunction (.capability index name)
    let h := h.setField group name f
    (group, if isFree then h.setField h.registry.globals name f else h)
  | .group _ name _ =>
    let h := h.setField h.registry.globals name (.table group)
    h.newTable {}
  | .service name value =>
    let (v, h) := h.ofJson value
    (group, h.setField h.registry.globals name v)

/-- Carries out steps. -/
def performAll (steps : List BindingStep) (h : Heap) : Heap :=
  let (group, h) := h.newTable {}
  (steps.foldl (fun (acc : Nat × Heap) s ↦ perform acc.1 acc.2 s) (group, h)).2

/-- Binds capabilities, and answers what is to be reported. -/
def bindCapabilities (outline : List (String × List String)) (h : Heap) :
    List Diagnostic × Heap :=
  let steps := BindingStep.ofCapabilities 0 (isTaken h) outline
  (steps.flatMap BindingStep.reports, performAll steps h)

/-- Sets services as global variables. -/
def bindServices (s : HostServices) (h : Heap) : Heap :=
  performAll (BindingStep.ofServices s) h

/-- Lets modules be looked up by the host: behind the loaders that scripts registered there is
nothing but the host's own search. -/
def installSearcher (h : Heap) : Heap :=
  let package := h.registry.package
  let preload : Value := match h.getField package "searchers" with
    | .table a => (h.table a).getInt 1
    | _ => .nil
  let (search, h) := h.newFunction .moduleSearcher
  let (list, h) := Globals.newSequence [preload, search] h
  h.setField package "searchers" (.table list)

end Binding

end MacroStream.Script
