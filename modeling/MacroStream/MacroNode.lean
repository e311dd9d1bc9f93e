import MacroStream.Path

/-!
# Macros

A macro as it is stored: a name, its source, the language of the source, and how the source is to be
repeated for crafting.
-/

namespace MacroStream

/-- The language that a macro is written in. -/
inductive Language where
  /-- One command per line. -/
  | native
  /-- A script that yields one command line at a time. -/
  | lua
  deriving DecidableEq, Repr, Inhabited

namespace Language

/-- The name of a language in stored data. -/
def name : Language → String
  | native => "native"
  | lua => "lua"

/-- The language with a given name. -/
def ofName? : String → Option Language
  | "native" => some native
  | "lua" => some lua
  | _ => none

/-- A file with the extension `lua`, in any mixture of cases, is a script; any other file is not. -/
def ofPath (p : Path) : Language :=
  match p.extension? with
  | some ext => if ext.toList.map Char.toLower = ['l', 'u', 'a'] then lua else native
  | none => native

end Language

/-- A stored macro. -/
structure MacroNode where
  name : String
  /-- The source text. -/
  contents : String
  language : Language := .native
  /-- Whether the source is wrapped in craft loop steps before it is parsed. -/
  craftLoop : Bool := false
  /-- 0 runs once, -1 repeats for ever, any other number is the number of repetitions. -/
  craftLoopCount : Int32 := 0
  deriving DecidableEq, Repr

namespace MacroNode

/-- Whether the macro runs as a coroutine. -/
def isScript (n : MacroNode) : Bool := n.language == .lua

/-- The macro with another language. -/
def withLanguage (n : MacroNode) (l : Language) : MacroNode := { n with language := l }

/-- The macro repeated for crafting. -/
def withCraftLoop (n : MacroNode) (count : Int32) : MacroNode :=
  { n with craftLoop := true, craftLoopCount := count }

end MacroNode

end MacroStream
