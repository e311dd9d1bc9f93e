import MacroStream.Text.Blank

/-!
# Commands

One executable line of a macro. Two commands are equal when their texts are, wherever they stand, so
equality is decided on the text and the line number is left out of it.
-/

namespace MacroStream

/-- A command with the number of the line it stands on, counted from 1. -/
structure Command where
  text : String
  line : Nat
  deriving Repr, Inhabited

namespace Command

/-- Equal texts make equal commands. -/
def sameAs (a b : Command) : Bool := a.text == b.text

instance : BEq Command := ⟨sameAs⟩

@[simp] theorem beq_iff (a b : Command) : (a == b) = true ↔ a.text = b.text := by
  simp [BEq.beq, sameAs]

/-- The first word behind the leading slashes; empty when there is none. -/
def name (c : Command) : String :=
  String.ofList (Text.firstWord (c.text.toList.dropWhile (· == '/')))

instance : ToString Command := ⟨Command.text⟩

end Command

end MacroStream
