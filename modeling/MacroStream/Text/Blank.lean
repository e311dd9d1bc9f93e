/-!
# White space

The characters that count as blank, and trimming of a text on both sides. `trim` works on the list
of characters, so its laws are the laws of `List.dropWhile`.

Trimming is said once, for an arbitrary class of characters (`trimBy`), because the same shape is
wanted for lists that are not texts.
-/

namespace MacroStream.Text

/-- The `White_Space` property of Unicode. -/
def isBlank (c : Char) : Bool :=
  let n := c.val
  (9 ≤ n && n ≤ 13) || n == 0x20 || n == 0x85 || n == 0xA0 || n == 0x1680 ||
    (0x2000 ≤ n && n ≤ 0x200A) || n == 0x2028 || n == 0x2029 || n == 0x202F || n == 0x205F ||
    n == 0x3000

/-- `xs` without the longest suffix whose members satisfy `p`. -/
def dropEndWhile {α : Type} (p : α → Bool) (xs : List α) : List α :=
  (xs.reverse.dropWhile p).reverse

/-- `xs` without the longest prefix and suffix whose members satisfy `p`. -/
def trimBy {α : Type} (p : α → Bool) (xs : List α) : List α :=
  dropEndWhile p (xs.dropWhile p)

/-- `s` without the blanks at its two ends. -/
def trim (s : String) : String :=
  String.ofList (trimBy isBlank s.toList)

/-- `s` without the blanks at its end. -/
def trimEnd (s : String) : String :=
  String.ofList (dropEndWhile isBlank s.toList)

/-- The first maximal run of characters that are not blank. -/
def firstWord (cs : List Char) : List Char :=
  (cs.dropWhile isBlank).takeWhile fun c ↦ !isBlank c

@[simp] theorem toList_trim (s : String) : (trim s).toList = trimBy isBlank s.toList := by
  simp [trim]

end MacroStream.Text
