import MacroStream.Config
import MacroStream.Json.Decode
import MacroStream.MacroNode

/-!
# Settings and macros from JSON values

The records of the configuration and of stored macros, with their field names. Every setting may be
left out; of a macro, the name and the contents may not.
-/

namespace MacroStream

open Json (Field Decoded Surplus)

/-- A whole number of 32 bits without sign. -/
def Json.word32 (v : Json) : Decoded UInt32 := do
  return (← Json.whole "u32" 0 4294967295 v).toNat.toUInt32

/-- A whole number of 64 bits without sign. -/
def Json.word64 (v : Json) : Decoded UInt64 := do
  return (← Json.whole "usize" 0 18446744073709551615 v).toNat.toUInt64

/-- A whole number of 32 bits with sign. -/
def Json.signed32 (v : Json) : Decoded Int32 := do
  return (← Json.whole "i32" (-2147483648) 2147483647 v).toInt32

/-- The settings for craft loops. -/
def CraftLoopConfig.ofJson (surplus : Surplus) : Json → Decoded CraftLoopConfig :=
  Json.record surplus "CraftLoopConfig"
    [Field.optional "template_enabled" Json.truth fun v c ↦ { c with templateEnabled := v },
      Field.optional "template" Json.text fun v c ↦ { c with template := v },
      Field.optional "max_wait" Json.word32 fun v c ↦ { c with maxWait := v },
      Field.optional "echo" Json.truth fun v c ↦ { c with echo := v },
      Field.optional "from_recipe_note" Json.truth fun v c ↦ { c with fromRecipeNote := v }]
    {}

/-- The settings for scripts. -/
def ScriptingConfig.ofJson (surplus : Surplus) : Json → Decoded ScriptingConfig :=
  Json.record surplus "ScriptingConfig"
    [Field.optional "extra_module_search_paths" Json.texts
        fun v c ↦ { c with extraModuleSearchPaths := v },
      Field.optional "sandbox" Json.truth fun v c ↦ { c with sandbox := v },
      Field.optional "memory_limit_mb" Json.word64 fun v c ↦ { c with memoryLimitMb := v }]
    {}

/-- The settings for diagnostics. -/
def LoggingConfig.ofJson (surplus : Surplus) : Json → Decoded LoggingConfig :=
  Json.record surplus "LoggingConfig"
    [Field.optional "level" Json.text fun v c ↦ { c with level := v },
      Field.optional "file" Json.text fun v c ↦ { c with file := v }]
    {}

/-- All settings. -/
def Config.ofJson (surplus : Surplus) : Json → Decoded Config :=
  Json.record surplus "Config"
    [Field.optional "craft_loop" (CraftLoopConfig.ofJson surplus)
        fun v c ↦ { c with craftLoop := v },
      Field.optional "scripting" (ScriptingConfig.ofJson surplus)
        fun v c ↦ { c with scripting := v },
      Field.optional "logging" (LoggingConfig.ofJson surplus) fun v c ↦ { c with logging := v }]
    {}

/-- The language of a macro. -/
def Language.ofJson (v : Json) : Decoded Language := do
  let name ← Json.variant [Language.native.name, Language.lua.name] v
  return if name = Language.lua.name then .lua else .native

/-- A stored macro. -/
def MacroNode.ofJson : Json → Decoded MacroNode :=
  Json.record .refused "MacroNode"
    [Field.needed "name" Json.text fun v n ↦ { n with name := v },
      Field.needed "contents" Json.text fun v n ↦ { n with contents := v },
      Field.optional "language" Language.ofJson fun v n ↦ { n with language := v },
      Field.optional "craft_loop" Json.truth fun v n ↦ { n with craftLoop := v },
      Field.optional "craft_loop_count" Json.signed32 fun v n ↦ { n with craftLoopCount := v }]
    { name := "", contents := "" }

end MacroStream
