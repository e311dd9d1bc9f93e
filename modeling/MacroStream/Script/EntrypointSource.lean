import MacroStream.Text.Lines

/-!
# The source of an entrypoint

A macro written as a script is a list of statements. It becomes a chunk that makes `yield` a global,
puts the statements into a function, and answers a coroutine of that function. The statements are
indented line by line, so a line of the macro is a line of the chunk, two further down.
-/

namespace MacroStream.Script

/-- What stands in front of every line of a macro. -/
def bodyIndent : String := "  "

/-- The chunk that answers a coroutine which runs `source`. -/
def entrypointSource (source : String) : String :=
  let body := (Text.splitLines source).map fun line ↦ bodyIndent ++ line
  "yield = coroutine.yield\nlocal function entrypoint()\n" ++ "\n".intercalate body ++
    "\nend\nreturn coroutine.create(entrypoint)"

end MacroStream.Script
