import MacroStream.Capability

/-!
# Script hosts

All that a host lends to scripts: capabilities, services, and stored macros, if there are any.
-/

namespace MacroStream

/-- All that a host lends to scripts. -/
structure ScriptHost (m : Type → Type) where
  capabilities : CapabilityRegistry m
  services : HostServices
  store : Option StoredMacros

namespace ScriptHost

variable {m : Type → Type}

/-- A host that lends nothing. -/
def empty : ScriptHost m := ⟨.empty, .empty, none⟩

/-- The capabilities that a macro sees: with stored macros the engine's own capability comes last. -/
def macroCapabilities [Monad m] (host : ScriptHost m) : CapabilityRegistry m :=
  match host.store with
  | some store => host.capabilities.withInternal store
  | none => host.capabilities

end ScriptHost

end MacroStream
