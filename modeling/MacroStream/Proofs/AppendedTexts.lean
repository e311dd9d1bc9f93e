import MacroStream.Proofs.CommandLines

/-!
# Texts put one behind the other

What the text of two texts with a `\n` between them is read as, line numbers and all. Numbers come
from where a text begins: `lowered` says what becomes of an answer when the text begins some lines
further down. So a list of lines is read piece by piece (`parseLines_append`), each piece for itself
and then lowered (`parseLines_add`); and the lines of the two texts are the lines of the one and
then those of the other, as long as the `\n` does not complete a terminator.

If the first text ends in `\r`, the `\n` behind it begins no line of its own, and the second text
stands one line higher.
-/

namespace MacroStream

namespace LineParser

open Text

/-- What is read of a text, if the text begins `n` lines further down. -/
def lowered (n : Nat) : Outcome (List Command) → Outcome (List Command)
  | .ok cs => .ok (cs.map fun c ↦ ⟨c.text, n + c.line⟩)
  | .error (.parse line message) => .error (.parse (n + line) message)
  | .error e => .error e

theorem parseLines_add (n k : Nat) (lines : List String) :
    parseLines (n + k) lines = lowered n (parseLines k lines) := by
  induction lines generalizing k with
  | nil => rfl
  | cons line lines ih =>
    rw [parseLines, parseLines, Nat.add_assoc, ih]
    cases classify line with
    | skip => rfl
    | command text =>
      cases parseLines (k + 1) lines with
      | ok cs => rfl
      | error e => cases e <;> rfl
    | invalid text => rfl

/-- Lines are read piece by piece, and the first piece that is refused decides. -/
theorem parseLines_append (n : Nat) (lines lines' : List String) :
    parseLines n (lines ++ lines') = do
      let cs ← parseLines n lines
      let ds ← parseLines (n + lines.length) lines'
      return cs ++ ds := by
  induction lines generalizing n with
  | nil =>
    rw [List.nil_append, List.length_nil, Nat.add_zero]
    cases parseLines n lines' <;> rfl
  | cons line lines ih =>
    have hlength : n + (line :: lines).length = n + 1 + lines.length := by
      rw [List.length_cons]
      omega
    rw [List.cons_append, parseLines, parseLines, ih, hlength]
    cases classify line with
    | skip => rfl
    | command text =>
      cases parseLines (n + 1) lines with
      | error e => rfl
      | ok cs => cases parseLines (n + 1 + lines.length) lines' <;> rfl
    | invalid text => rfl

/-- The text of two texts is read as the two are, the second one lowered by the lines of the
first. -/
theorem parse_append_lf_eq {a : String} (h : a.toList.getLast? ≠ some '\r') (b : String) :
    parse (a ++ "\n" ++ b) = do
      let cs ← parse a
      let ds ← lowered (splitLines a).length (parse b)
      return cs ++ ds := by
  rw [parse, splitLines_append_lf h, parseLines_append, Nat.add_comm, parseLines_add]
  rfl

/-- **Texts put one behind the other.** Two texts with a `\n` between them, the first of which does
not end in `\r`: if the first is refused, the whole is refused for the same line. Otherwise, if the
second is refused, the whole is refused for its line, which has the lines of the first in front of
it. Otherwise the commands are those of the first text and then those of the second, whose lines
have the lines of the first in front of them. -/
theorem parse_append_lf {a : String} (h : a.toList.getLast? ≠ some '\r') (b : String) :
    match parse a, parse b with
    | .error e, _ => parse (a ++ "\n" ++ b) = .error e
    | .ok _, .error e =>
      ∃ line message, e = .parse line message ∧
        parse (a ++ "\n" ++ b) = .error (.parse ((splitLines a).length + line) message)
    | .ok cs, .ok ds =>
      parse (a ++ "\n" ++ b) =
        .ok (cs ++ ds.map fun d ↦ ⟨d.text, (splitLines a).length + d.line⟩) := by
  rw [parse_append_lf_eq h]
  cases parse a with
  | error e => rfl
  | ok cs =>
    rcases parse_cases b with ⟨ds, hds, -⟩ | ⟨line, text, hbad, -⟩
    · rw [hds]
      rfl
    · rw [hbad]
      exact ⟨line, _, rfl, rfl⟩

/-- A terminator on either side of the seam, and a malformed line behind it. -/
theorem parse_append_lf_seam :
    "/echo a\n".toList.getLast? ≠ some '\r' ∧
      parse "/echo a\n\n\n/echo b" = .ok [⟨"/echo a", 1⟩, ⟨"/echo b", 4⟩] ∧
      ∃ message, parse "/echo a\n\n\r\nb" = .error (.parse 4 message) := by
  have hend : "/echo a\n".toList.getLast? ≠ some '\r' := by decide
  obtain ⟨line, message, hbad, hparse⟩ := parse_append_lf hend "\r\nb"
  obtain ⟨rfl, rfl⟩ := EngineError.parse.inj hbad
  exact ⟨hend, parse_append_lf hend "\n/echo b", _, hparse⟩

end LineParser

end MacroStream
