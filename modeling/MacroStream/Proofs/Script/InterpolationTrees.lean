import MacroStream.Proofs.Script.SyntaxEquality
import MacroStream.Proofs.Text.Bytes
import MacroStream.Script.Interpolation
import MacroStream.Script.Parser

/-!
# The functions of the chunk for interpolation

The chunk for interpolation defines a function `f`. In `f` stands the function that replaces a piece
of a string, and in that one the function that looks a name up. Their trees are written out here,
part by part, so that it can be said of each part what it does; and the source is read as these
trees (`parse_interpolation`).
-/

namespace MacroStream.Script

/-- What a chunk reads as that is given by its characters. -/
def parseCharacters (source : ByteArray) (cs : List Char) : Except ChunkFault FunctionBody :=
  let bs := cs.flatMap String.utf8EncodeChar
  let (lexemes, fault) := Lexer.lexFrom (bs.length + 1) 1 bs
  Parser.parseLexemes source 0 lexemes fault

theorem parse_toUTF8 (source : ByteArray) (s : String) :
    Parser.parse source 0 s.toUTF8 = parseCharacters source s.toList := by
  rw [Parser.parse, Lexer.lex, Text.toList_eq_data_toList, Text.toUTF8_eq_flatMap, parseCharacters]
  rfl

namespace Interpolation

/-! ### Looking a name up -/

/-- Looks at one variable of a function: there is none any more, or its name may be the right
one. -/
def variableBlock : Block :=
  .mk
    [.declare [("local_name".toUTF8, .regular), ("local_value".toUTF8, .regular)]
        [.call (.captured "getlocal".toUTF8 2) [.scope "level".toUTF8 3, .scope "i".toUTF8 0] 19] 19,
      .if (.binary .eq (.scope "local_name".toUTF8 1) .nil 20) (.mk [.break] []) (.mk [] []),
      .if (.binary .eq (.scope "local_name".toUTF8 1) (.scope "name".toUTF8 6) 21)
        (.mk [.assign [.scope 4, .scope 3] [.true, .scope "local_value".toUTF8 0] 22] [])
        (.mk [] []),
      .assign [.scope 2] [.binary .add (.scope "i".toUTF8 2) (.int 1) 24] 24] []

/-- Looks at the variables of one function. -/
def levelBlock : Block :=
  .mk
    [.declare [("found".toUTF8, .regular), ("value".toUTF8, .regular)] [.false, .nil] 16,
      .declare [("i".toUTF8, .regular)] [.int 1] 17,
      .while .true variableBlock,
      .if (.scope "found".toUTF8 2) (.mk [.return [.scope "value".toUTF8 1]] []) (.mk [] []),
      .assign [.scope 3] [.binary .add (.scope "level".toUTF8 3) (.int 1) 27] 27] []

/-- Whether there is a function at the level. -/
def levelCondition : Expr :=
  .binary .ne (.call (.captured "getinfo".toUTF8 1) [.scope "level".toUTF8 0, .str "".toUTF8] 15)
    .nil 15

/-- Answers the global variable. -/
def globalAnswer : Statement :=
  .tailCall
    (.call (.captured "rawget".toUTF8 3) [.captured "globals".toUTF8 4, .scope "name".toUTF8 1] 29)

/-- The body of the function that looks a name up. -/
def lookupBlock : Block :=
  .mk
    [.declare [("level".toUTF8, .regular)] [.captured "CALLER_LEVEL".toUTF8 0] 14,
      .while levelCondition levelBlock,
      globalAnswer] []

/-- The function that looks a name up. -/
def lookup : FunctionBody :=
  .mk
    { params := ["_".toUTF8, "name".toUTF8]
      isVararg := false
      captures := [("CALLER_LEVEL".toUTF8, .captured 1), ("getinfo".toUTF8, .captured 2),
        ("getlocal".toUTF8, .captured 3), ("rawget".toUTF8, .captured 4),
        ("globals".toUTF8, .captured 5)]
      source := interpolationChunk.toUTF8
      lineDefined := 13
      lastLine := 30
      frameSize := 11 }
    lookupBlock

/-! ### Replacing a piece -/

/-- Takes the braces off a piece. -/
def takeCode : Statement :=
  .declare [("code".toUTF8, .regular)]
    [.method (.scope "block".toUTF8 0) "sub".toUTF8 [.int 2, .int (-2)] 12 12] 12

/-- Makes the table that the expression finds its global variables in. -/
def makeEnvironment : Statement :=
  .declare [("env".toUTF8, .regular)]
    [.call (.captured "setmetatable".toUTF8 0)
      [.table [] 13, .table [.field (.str "__index".toUTF8) (.function lookup) 30] 13] 13] 30

/-- Reads the expression. -/
def loadCode : Statement :=
  .declare [("fn".toUTF8, .regular), ("err".toUTF8, .regular)]
    [.call (.captured "load".toUTF8 6)
      [.concat [.str "return ".toUTF8, .scope "code".toUTF8 1] 31,
        .concat [.str "expression \x60".toUTF8, .scope "code".toUTF8 1, .str "\x60".toUTF8] 31,
        .str "t".toUTF8, .scope "env".toUTF8 0] 31] 31

/-- Gives up if there is no expression. -/
def refuseCode : Statement :=
  .if (.unary .not (.scope "fn".toUTF8 1) 32)
    (.mk [.run (.call (.captured "error".toUTF8 7) [.scope "err".toUTF8 0, .int 0] 33)] [])
    (.mk [] [])

/-- Evaluates the expression. -/
def evaluateCode : Statement :=
  .declare [("value".toUTF8, .regular)] [.call (.scope "fn".toUTF8 1) [] 35] 35

/-- Answers the text of the value. -/
def answerText : Statement :=
  .tailCall (.call (.captured "tostring".toUTF8 8) [.scope "value".toUTF8 0] 36)

/-- The function that replaces a piece. -/
def replace : FunctionBody :=
  .mk
    { params := ["block".toUTF8]
      isVararg := false
      captures := [("setmetatable".toUTF8, .captured 0), ("CALLER_LEVEL".toUTF8, .captured 1),
        ("getinfo".toUTF8, .captured 2), ("getlocal".toUTF8, .captured 3),
        ("rawget".toUTF8, .captured 4), ("globals".toUTF8, .captured 5),
        ("load".toUTF8, .captured 6), ("error".toUTF8, .captured 7),
        ("tostring".toUTF8, .captured 8)]
      source := interpolationChunk.toUTF8
      lineDefined := 11
      lastLine := 37
      frameSize := 9 }
    (.mk [takeCode, makeEnvironment, loadCode, refuseCode, evaluateCode, answerText] [])

/-! ### Interpolation -/

/-- Goes through a string, and keeps only the string of what comes of that. -/
def goThrough : Statement :=
  .return
    [.paren (.method (.scope "str".toUTF8 0) "gsub".toUTF8
      [.str "%b\x7b\x7d".toUTF8, .function replace] 11 11)]

/-- The function `f`. -/
def interpolate : FunctionBody :=
  .mk
    { params := ["str".toUTF8]
      isVararg := false
      captures := [("setmetatable".toUTF8, .scope 4), ("CALLER_LEVEL".toUTF8, .scope 0),
        ("getinfo".toUTF8, .scope 8), ("getlocal".toUTF8, .scope 7), ("rawget".toUTF8, .scope 5),
        ("globals".toUTF8, .scope 1), ("load".toUTF8, .scope 6), ("error".toUTF8, .scope 2),
        ("tostring".toUTF8, .scope 3)]
      source := interpolationChunk.toUTF8
      lineDefined := 10
      lastLine := 38
      frameSize := 4 }
    (.mk [goThrough] [])

/-- A global variable, in a line of the chunk. -/
def globalAt (line : Nat) (name : String) : Expr :=
  .index (.captured "_ENV".toUTF8 0) (.str name.toUTF8) line

/-- The chunk. -/
def chunk : FunctionBody :=
  let names (ns : List String) : List (Name × Attribute) := ns.map fun n ↦ (n.toUTF8, .regular)
  let functions := ["load", "rawget", "setmetatable", "tostring", "error"]
  .mk
    { params := []
      isVararg := true
      captures := [("_ENV".toUTF8, .scope 0)]
      source := interpolationChunk.toUTF8
      lineDefined := 0
      lastLine := 0
      frameSize := 12 }
    (.mk
      [.declare (names ["getinfo", "getlocal"])
          [.index (globalAt 2 "debug") (.str "getinfo".toUTF8) 2,
            .index (globalAt 2 "debug") (.str "getlocal".toUTF8) 2] 2,
        .declare (names functions) (functions.map (globalAt 3)) 3,
        .declare (names ["globals"]) [.captured "_ENV".toUTF8 0] 4,
        .declare (names ["CALLER_LEVEL"]) [.int 6] 8,
        .assign [.index (.captured "_ENV".toUTF8 0) (.str "f".toUTF8) 10]
          [.function interpolate] 10] [])

/-! ### The source -/

/-- Whether characters are those of a text, and not of much of it, that reads as the chunk. -/
def readsAsChunk (cs : List Char) : Bool :=
  let bs := cs.flatMap String.utf8EncodeChar
  bs.head? ≠ some 27 && bs.length ≤ 2000 &&
    match parseCharacters interpolationChunk.toUTF8 cs with
    | .ok body => body.same chunk
    | .error _ => false

/-- The characters of the source are written out line by line: to read a literal byte by byte takes
the kernel long. -/
theorem readsAsChunk_source : readsAsChunk interpolationSource.toList = true := by
  rw [interpolationSource, Text.toList_intercalate_of]
  rotate_left
  · dsimp only
    repeat
      apply List.Forall₂.cons
      · first
        | with_reducible exact String.toList_ofList
        | exact Text.toList_append_of String.toList_ofList String.toList_ofList
    exact .nil
  decide +kernel

/-- The source is a short text, and reads as the trees of this module. -/
theorem parse_interpolation : interpolationSource.toUTF8.data.toList.head? ≠ some 27 ∧
    interpolationSource.toUTF8.size ≤ 2000 ∧
    Parser.parse interpolationChunk.toUTF8 0 interpolationSource.toUTF8 = .ok chunk := by
  have hbytes : interpolationSource.toList.flatMap String.utf8EncodeChar =
      interpolationSource.toUTF8.data.toList := by
    rw [Text.toUTF8_eq_flatMap]
  have hlist (bs : ByteArray) : bs.data.toList.length = bs.size := rfl
  have hreads := readsAsChunk_source
  rw [readsAsChunk, ← parse_toUTF8, hbytes, hlist] at hreads
  simp only [Bool.and_eq_true, decide_eq_true_eq] at hreads
  obtain ⟨⟨hhead, hsize⟩, hbody⟩ := hreads
  refine ⟨hhead, hsize, ?_⟩
  split at hbody
  case h_1 body hparse => rw [hparse, FunctionBody.eq_of_same hbody]
  case h_2 => cases hbody

end Interpolation

end MacroStream.Script
