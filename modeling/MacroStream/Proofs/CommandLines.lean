import MacroStream.Command.LineParser
import MacroStream.Proofs.Text.Lines
import MacroStream.Proofs.Text.Trim

/-!
# What a text says

A text of the command language says no more than the kinds of those of its lines that are not
skipped, in order: `kinds`. The commands that it is parsed to have their texts, and if it is
refused, it is refused for the first malformed one. Only the numbers of the lines cannot be told
from them.

The kinds of a text come from the kinds of its pieces wherever a `\n` stands between these, also
behind a piece that ends in `\r`: the line that is lost there is blank.
-/

namespace MacroStream

namespace LineParser

open Text

/-! ### Kinds -/

/-- The kind of a line, judged by its characters. -/
def kindOf (line : List Char) : LineKind := classifyTrimmed (trimBy isBlank line)

/-- The kinds of the lines that are not skipped. -/
def kinds (cs : List Char) : List LineKind :=
  ((linesOf cs).map kindOf).filter fun k ↦ k ≠ .skip

theorem kindOf_nil : kindOf [] = .skip := rfl

theorem kindOf_cons_of_isBlank {c : Char} (h : isBlank c = true) (line : List Char) :
    kindOf (c :: line) = kindOf line := by
  rw [kindOf, trimBy_cons_of_pos h, kindOf]

theorem kindOf_concat_of_isBlank {c : Char} (h : isBlank c = true) (line : List Char) :
    kindOf (line ++ [c]) = kindOf line := by
  rw [kindOf, trimBy_concat_of_pos h, kindOf]

/-- A blank in front of a text says nothing. -/
theorem kinds_cons_of_isBlank {c : Char} (h : isBlank c = true) (cs : List Char) :
    kinds (c :: cs) = kinds cs := by
  by_cases hn : c = '\n'
  · subst hn
    simp [kinds, kindOf_nil]
  · by_cases hr : c = '\r'
    · subst hr
      by_cases hcs : cs.head? = some '\n'
      · obtain ⟨ds, rfl⟩ : ∃ ds, cs = '\n' :: ds := by
          cases cs with
          | nil => simp at hcs
          | cons d ds => exact ⟨ds, by simpa using hcs⟩
        -- The two are one terminator, and the line that it ends is empty either way.
        simp [kinds]
      · rw [kinds, linesOf_cr hcs]
        simp [kinds, kindOf_nil]
    · rw [kinds, linesOf_cons hr hn, kinds]
      cases linesOf cs with
      | nil => simp [consFirst, kindOf_cons_of_isBlank h, kindOf_nil]
      | cons line lines => simp [consFirst, kindOf_cons_of_isBlank h]

/-- A blank behind a text says nothing. -/
theorem kinds_concat_of_isBlank {c : Char} (h : isBlank c = true) (cs : List Char) :
    kinds (cs ++ [c]) = kinds cs := by
  by_cases hr : c = '\r'
  · subst hr
    rw [kinds, linesOf_append_cr cs (by simp)]
    simp [kinds, linesOf, kindOf_nil]
  · by_cases hn : c = '\n'
    · subst hn
      by_cases hcs : cs.getLast? = some '\r'
      · -- The `\n` completes a terminator, so there is not even a line more.
        obtain ⟨ds, rfl⟩ := List.getLast?_eq_some_iff.1 hcs
        rw [List.append_assoc, kinds, List.singleton_append, linesOf_append_crlf, kinds,
          linesOf_append_cr ds (by simp)]
      · rw [kinds, linesOf_append_lf hcs]
        simp [kinds, linesOf, kindOf_nil]
    · conv_rhs => rw [kinds, ← List.dropLast_concat_getLast (linesOf_ne_nil cs)]
      rw [kinds, linesOf_concat cs hr hn]
      simp [kindOf_concat_of_isBlank h]

theorem kinds_trimBy (cs : List Char) : kinds (trimBy isBlank cs) = kinds cs :=
  apply_trimBy (fun _ cs h ↦ kinds_cons_of_isBlank h cs)
    (fun _ cs h ↦ kinds_concat_of_isBlank h cs) cs

/-- Two texts with a `\n` between them say what the one says and then what the other says. -/
theorem kinds_append_lf (a b : List Char) : kinds (a ++ '\n' :: b) = kinds a ++ kinds b := by
  by_cases ha : a.getLast? = some '\r'
  · -- The seam is not clean, but the `\r` is a blank, which `a` can do without.
    obtain ⟨a, rfl⟩ := List.getLast?_eq_some_iff.1 ha
    rw [kinds_concat_of_isBlank rfl, List.append_assoc, List.singleton_append, kinds,
      linesOf_append_crlf]
    simp [kinds]
  · rw [kinds, linesOf_append_lf ha]
    simp [kinds]

theorem kinds_intercalate_lf {texts : List (List Char)} (h : texts ≠ []) :
    kinds (['\n'].intercalate texts) = texts.flatMap kinds := by
  induction texts with
  | nil => exact absurd rfl h
  | cons text texts ih =>
    rcases texts with _ | ⟨text', texts⟩
    · simp
    · rw [List.intercalate_cons_cons, List.append_assoc, List.singleton_append, kinds_append_lf,
        ih (by simp)]
      rfl

/-! ### Reading -/

/-- The texts of commands, or the text of the first malformed line. -/
def read : List LineKind → Except String (List String)
  | [] => .ok []
  | .skip :: ks => read ks
  | .command text :: ks => (read ks).map (text :: ·)
  | .invalid text :: _ => .error text

theorem read_filter (ks : List LineKind) : read (ks.filter fun k ↦ k ≠ .skip) = read ks := by
  induction ks with
  | nil => rfl
  | cons k ks ih => cases k <;> simp_all [read]

theorem read_commands_append (texts : List String) (ks : List LineKind) :
    read (texts.map .command ++ ks) = (read ks).map (texts ++ ·) := by
  induction texts with
  | nil => cases h : read ks <;> simp [h, Except.map]
  | cons text texts ih =>
    rw [List.map_cons, List.cons_append, read, ih]
    cases read ks <;> rfl

/-- Commands behind a text are read if it is, and a text that is refused is refused with them. -/
theorem read_append_commands (ks : List LineKind) (texts : List String) :
    read (ks ++ texts.map .command) = (read ks).map (· ++ texts) := by
  induction ks with
  | nil =>
    have h := read_commands_append texts []
    rw [List.append_nil] at h
    rw [List.nil_append, h]
    simp [read, Except.map]
  | cons k ks ih =>
    cases k with
    | skip => rw [List.cons_append, read, ih, read]
    | command text =>
      rw [List.cons_append, read, ih, read]
      cases read ks <;> rfl
    | invalid text => rfl

/-- A text is parsed to the commands that are read from its kinds, or refused for the line that
makes them unreadable. -/
theorem parseLines_cases (n : Nat) (lines : List String) :
    (∃ cs, parseLines n lines = .ok cs ∧ read (lines.map classify) = .ok (cs.map Command.text)) ∨
      ∃ line text, parseLines n lines = .error (malformed line text) ∧
        read (lines.map classify) = .error text := by
  induction lines generalizing n with
  | nil => exact .inl ⟨[], rfl, rfl⟩
  | cons l lines ih =>
    rw [parseLines, List.map_cons]
    cases classify l with
    | skip => exact ih (n + 1)
    | command text =>
      rcases ih (n + 1) with ⟨cs, hcs, hread⟩ | ⟨line, bad, hbad, hread⟩
      · exact .inl ⟨⟨text, n⟩ :: cs, by simp [hcs], by simp [read, hread, Except.map]⟩
      · exact .inr ⟨line, bad, by simp [hbad], by simp [read, hread, Except.map]⟩
    | invalid text => exact .inr ⟨n, text, rfl, rfl⟩

theorem read_kinds (s : String) : read (kinds s.toList) = read ((splitLines s).map classify) := by
  rw [kinds, read_filter, splitLines, List.map_map]
  congr 2
  funext line
  simp [kindOf, classify]

theorem parse_cases (s : String) :
    (∃ cs, parse s = .ok cs ∧ read (kinds s.toList) = .ok (cs.map Command.text)) ∨
      ∃ line text, parse s = .error (malformed line text) ∧
        read (kinds s.toList) = .error text := by
  rw [read_kinds]
  exact parseLines_cases 1 _

end LineParser

end MacroStream
