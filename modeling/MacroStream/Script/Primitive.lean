/-!
# The functions that every script finds

The functions of the standard libraries, by library. A library function is a constant: two uses of
the same one are equal, and none of them has a state of its own. What they do is said in the modules
of the libraries; here are only their names.
-/

namespace MacroStream.Script

/-- Functions that stand among the global variables. -/
inductive BaseFunction where
  | assert | collectgarbage | dofile | error | getmetatable | ipairs | load | loadfile | next
  | pairs | pcall | print | rawequal | rawget | rawlen | rawset | require | select | setmetatable
  | tonumber | tostring | type | warn | xpcall
  /-- The iterator that `ipairs` answers. -/
  | ipairsStep
  deriving DecidableEq, Repr

/-- Functions on coroutines. -/
inductive CoroutineFunction where
  | close | create | isyieldable | resume | running | status | wrap | yield
  deriving DecidableEq, Repr

/-- Functions on tables as sequences. -/
inductive TableFunction where
  | concat | insert | move | pack | remove | sort | unpack
  deriving DecidableEq, Repr

/-- Functions on strings. -/
inductive StringFunction where
  | byte | char | dump | find | format | gmatch | gsub | len | lower | match | pack | packsize
  | rep | reverse | sub | unpack | upper
  /-- The arithmetic of strings that are numbers. -/
  | arith (event : String)
  deriving DecidableEq, Repr

/-- Functions on UTF-8 strings. -/
inductive Utf8Function where
  | char | codepoint | codes | len | offset
  /-- The iterators that `codes` answers. -/
  | codesStep (lax : Bool)
  deriving DecidableEq, Repr

/-- Functions on numbers. -/
inductive MathFunction where
  | abs | acos | asin | atan | ceil | cos | deg | exp | floor | fmod | log | max | min | modf | rad
  | random | randomseed | sin | sqrt | tan | tointeger | type | ult
  deriving DecidableEq, Repr

/-- Functions on the process and the clock. -/
inductive OsFunction where
  | clock | date | difftime | execute | exit | getenv | remove | rename | setlocale | time | tmpname
  deriving DecidableEq, Repr

/-- Functions on files. -/
inductive IoFunction where
  | close | flush | input | lines | open | output | popen | read | tmpfile | type | write
  deriving DecidableEq, Repr

/-- Methods of files. -/
inductive FileMethod where
  | close | flush | lines | read | seek | setvbuf | write
  /-- Closes a file that is still open. -/
  | gc
  | tostring
  deriving DecidableEq, Repr

/-- Functions on modules. -/
inductive PackageFunction where
  | loadlib | searchpath
  | searchPreload | searchScript | searchLibrary | searchLibraryRoot
  deriving DecidableEq, Repr

/-- Functions that look into running functions. -/
inductive DebugFunction where
  | debug | gethook | getinfo | getlocal | getmetatable | getregistry | getupvalue | getuservalue
  | sethook | setlocal | setmetatable | setupvalue | setuservalue | traceback | upvalueid
  | upvaluejoin
  deriving DecidableEq, Repr

/-- Functions of all libraries. -/
inductive Primitive where
  | base (f : BaseFunction)
  | coroutine (f : CoroutineFunction)
  | table (f : TableFunction)
  | string (f : StringFunction)
  | utf8 (f : Utf8Function)
  | math (f : MathFunction)
  | os (f : OsFunction)
  | io (f : IoFunction)
  | file (f : FileMethod)
  | package (f : PackageFunction)
  | debug (f : DebugFunction)
  deriving DecidableEq, Repr

namespace Primitive

/-- The global functions. -/
def ofBase : List (String × BaseFunction) :=
  [("assert", .assert), ("collectgarbage", .collectgarbage), ("dofile", .dofile),
    ("error", .error), ("getmetatable", .getmetatable), ("ipairs", .ipairs), ("load", .load),
    ("loadfile", .loadfile), ("next", .next), ("pairs", .pairs), ("pcall", .pcall),
    ("print", .print), ("rawequal", .rawequal), ("rawget", .rawget), ("rawlen", .rawlen),
    ("rawset", .rawset), ("require", .require), ("select", .select),
    ("setmetatable", .setmetatable), ("tonumber", .tonumber), ("tostring", .tostring),
    ("type", .type), ("warn", .warn), ("xpcall", .xpcall)]

/-- The functions of `coroutine`. -/
def ofCoroutine : List (String × CoroutineFunction) :=
  [("close", .close), ("create", .create), ("isyieldable", .isyieldable), ("resume", .resume),
    ("running", .running), ("status", .status), ("wrap", .wrap), ("yield", .yield)]

/-- The functions of `table`. -/
def ofTable : List (String × TableFunction) :=
  [("concat", .concat), ("insert", .insert), ("move", .move), ("pack", .pack),
    ("remove", .remove), ("sort", .sort), ("unpack", .unpack)]

/-- The functions of `string`. -/
def ofString : List (String × StringFunction) :=
  [("byte", .byte), ("char", .char), ("dump", .dump), ("find", .find), ("format", .format),
    ("gmatch", .gmatch), ("gsub", .gsub), ("len", .len), ("lower", .lower), ("match", .match),
    ("pack", .pack), ("packsize", .packsize), ("rep", .rep), ("reverse", .reverse),
    ("sub", .sub), ("unpack", .unpack), ("upper", .upper)]

/-- The functions of `utf8`. -/
def ofUtf8 : List (String × Utf8Function) :=
  [("char", .char), ("codepoint", .codepoint), ("codes", .codes), ("len", .len),
    ("offset", .offset)]

/-- The functions of `math`. -/
def ofMath : List (String × MathFunction) :=
  [("abs", .abs), ("acos", .acos), ("asin", .asin), ("atan", .atan), ("ceil", .ceil),
    ("cos", .cos), ("deg", .deg), ("exp", .exp), ("floor", .floor), ("fmod", .fmod),
    ("log", .log), ("max", .max), ("min", .min), ("modf", .modf), ("rad", .rad),
    ("random", .random), ("randomseed", .randomseed), ("sin", .sin), ("sqrt", .sqrt),
    ("tan", .tan), ("tointeger", .tointeger), ("type", .type), ("ult", .ult)]

/-- The functions of `os`. -/
def ofOs : List (String × OsFunction) :=
  [("clock", .clock), ("date", .date), ("difftime", .difftime), ("execute", .execute),
    ("exit", .exit), ("getenv", .getenv), ("remove", .remove), ("rename", .rename),
    ("setlocale", .setlocale), ("time", .time), ("tmpname", .tmpname)]

/-- The functions of `io`. -/
def ofIo : List (String × IoFunction) :=
  [("close", .close), ("flush", .flush), ("input", .input), ("lines", .lines), ("open", .open),
    ("output", .output), ("popen", .popen), ("read", .read), ("tmpfile", .tmpfile),
    ("type", .type), ("write", .write)]

/-- The methods of files. -/
def ofFile : List (String × FileMethod) :=
  [("close", .close), ("flush", .flush), ("lines", .lines), ("read", .read), ("seek", .seek),
    ("setvbuf", .setvbuf), ("write", .write)]

/-- The functions of `package`. -/
def ofPackage : List (String × PackageFunction) :=
  [("loadlib", .loadlib), ("searchpath", .searchpath)]

/-- The functions of `debug`. -/
def ofDebug : List (String × DebugFunction) :=
  [("debug", .debug), ("gethook", .gethook), ("getinfo", .getinfo), ("getlocal", .getlocal),
    ("getmetatable", .getmetatable), ("getregistry", .getregistry), ("getupvalue", .getupvalue),
    ("getuservalue", .getuservalue), ("sethook", .sethook), ("setlocal", .setlocal),
    ("setmetatable", .setmetatable), ("setupvalue", .setupvalue),
    ("setuservalue", .setuservalue), ("traceback", .traceback), ("upvalueid", .upvalueid),
    ("upvaluejoin", .upvaluejoin)]

/-- The name of a function in its list. -/
def nameIn {α : Type} [DecidableEq α] (fs : List (String × α)) (f : α) : String :=
  ((fs.find? fun (_, g) ↦ g = f).map Prod.fst).getD "?"

/-- The name by which messages know a function that is called without a name. -/
def qualifiedName : Primitive → String
  | base f => nameIn ofBase f
  | coroutine f => "coroutine." ++ nameIn ofCoroutine f
  | table f => "table." ++ nameIn ofTable f
  | string f => "string." ++ nameIn ofString f
  | utf8 f => "utf8." ++ nameIn ofUtf8 f
  | math f => "math." ++ nameIn ofMath f
  | os f => "os." ++ nameIn ofOs f
  | io f => "io." ++ nameIn ofIo f
  | file _ => "?"
  | package f => "package." ++ nameIn ofPackage f
  | debug f => "debug." ++ nameIn ofDebug f

end Primitive

end MacroStream.Script
