/-!
# Interpolation

The source of the function `f` that scripts find among the global variables. `f` replaces every
piece of a string between balanced braces by the value of the expression in it. A name in the
expression is a local variable of the function that called `f`, or else of one of its callers, the
innermost first, or else a global variable.

The function that looks a name up counts levels: the function itself, the expression, the function
that replaces a piece, the one that goes through the string, `f`, and the function that called `f`.
-/

namespace MacroStream.Script

/-- The name of the chunk that defines the function. -/
def interpolationChunk : String := "=interpolation"

/-- The source of the function. -/
def interpolationSource : String :=
  "\n".intercalate
    ["",
      "local getinfo, getlocal = debug.getinfo, debug.getlocal",
      "local load, rawget, setmetatable, tostring, error = " ++
        "load, rawget, setmetatable, tostring, error",
      "local globals = _ENV",
      "",
      "-- Levels above the function that looks a name up: the expression, the",
      "-- replacing function, string.gsub, f, and then the caller of f.",
      "local CALLER_LEVEL = 6",
      "",
      "function f(str)",
      "  return (str:gsub(\"%b\x7b\x7d\", function(block)",
      "    local code = block:sub(2, -2)",
      "    local env = setmetatable(\x7b\x7d, \x7b __index = function(_, name)",
      "      local level = CALLER_LEVEL",
      "      while getinfo(level, \"\") ~= nil do",
      "        local found, value = false, nil",
      "        local i = 1",
      "        while true do",
      "          local local_name, local_value = getlocal(level, i)",
      "          if local_name == nil then break end",
      "          if local_name == name then",
      "            found, value = true, local_value",
      "          end",
      "          i = i + 1",
      "        end",
      "        if found then return value end",
      "        level = level + 1",
      "      end",
      "      return rawget(globals, name)",
      "    end \x7d)",
      "    local fn, err = load(\"return \" .. code, \"expression `\" .. code .. \"`\", \"t\", env)",
      "    if not fn then",
      "      error(err, 0)",
      "    end",
      "    local value = fn()",
      "    return tostring(value)",
      "  end))",
      "end",
      ""]

end MacroStream.Script
