/-!
# Lines

A text is cut at `\r\n`, `\r` and `\n`. There is always at least one line: the empty text is one
empty line, and a terminator at the very end is followed by an empty line.

The cut is a recursion over the characters, with the pair `\r\n` recognised before the lone `\r`;
no index is ever taken, so no line can begin or end inside a character.
-/

namespace MacroStream.Text

/-- The three ways to end a line. -/
inductive LineEnd where
  | lf
  | cr
  | crlf
  deriving DecidableEq, Repr

/-- The characters that a line end is written with. -/
def LineEnd.chars : LineEnd → List Char
  | .lf => ['\n']
  | .cr => ['\r']
  | .crlf => ['\r', '\n']

/-- Puts `c` in front of the first line. -/
def consFirst (c : Char) : List (List Char) → List (List Char)
  | [] => [[c]]
  | line :: rest => (c :: line) :: rest

/-- The lines of a list of characters. -/
def linesOf : List Char → List (List Char)
  | [] => [[]]
  | '\r' :: '\n' :: cs => [] :: linesOf cs
  | c :: cs =>
    if c = '\r' ∨ c = '\n' then [] :: linesOf cs else consFirst c (linesOf cs)

/-- The lines of a text, without their terminators. -/
def splitLines (s : String) : List String :=
  (linesOf s.toList).map String.ofList

/-- How many lines a text has. -/
def lineCount (s : String) : Nat :=
  (linesOf s.toList).length

@[simp] theorem length_splitLines (s : String) : (splitLines s).length = lineCount s := by
  simp [splitLines, lineCount]

/-- A text has at least one line. -/
theorem linesOf_ne_nil (cs : List Char) : linesOf cs ≠ [] := by
  fun_induction linesOf cs with
  | case1 => simp
  | case2 => simp
  | case3 => simp
  | case4 c cs _ _ ih => cases h : linesOf cs <;> simp [consFirst]

end MacroStream.Text
