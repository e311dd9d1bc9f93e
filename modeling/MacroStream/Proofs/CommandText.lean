import MacroStream.Command.LineParser
import MacroStream.Proofs.Text.Lines
import MacroStream.Proofs.Text.Trim

/-!
# Texts of commands

Which texts a line of the command language can have when it is a command, and what becomes of such a
text when it is read again.

A line is judged by its two ends and its first characters, so the text of a command may well be
broken into several lines if it does not come from a text that was cut into lines. Reading a whole
text cuts it first: the commands that it finds are unbroken, and a text of a command is read as that
one command exactly if it is unbroken.
-/

namespace MacroStream

namespace LineParser

open Text

/-! ### Texts -/

/-- There is no end of a line in the text. -/
def IsUnbroken (s : String) : Prop := ∀ c ∈ s.toList, c ≠ '\r' ∧ c ≠ '\n'

/-- A text that a command can have: nothing is left to be trimmed, and it starts with a slash, is no
comment, and holds more than the slash. -/
structure IsCommandText (s : String) : Prop where
  trimmed : trim s = s
  slash : s.toList.head? = some '/'
  no_comment : ¬['/', '/'] <+: s.toList
  longer : 1 < s.utf8ByteSize

theorem one_lt_utf8ByteSize_of_toList {s : String} {c d : Char} {cs : List Char}
    (h : s.toList = c :: d :: cs) : 1 < s.utf8ByteSize := by
  have htext : s = String.singleton c ++ String.singleton d ++ String.ofList cs := by
    apply String.toList_injective
    simp [h]
  have hc := c.utf8Size_pos
  have hd := d.utf8Size_pos
  rw [htext, String.utf8ByteSize_append, String.utf8ByteSize_append]
  simp only [String.utf8ByteSize_singleton]
  omega

theorem exists_toList_of_one_lt {s : String} {c : Char} (hslash : s.toList.head? = some c)
    (hc : c.utf8Size = 1) (h : 1 < s.utf8ByteSize) : ∃ d cs, s.toList = c :: d :: cs := by
  rcases hs : s.toList with _ | ⟨c', _ | ⟨d, cs⟩⟩
  · simp [hs] at hslash
  · -- A single character of one byte is too short.
    obtain rfl : c' = c := by simpa [hs] using hslash
    have htext : s = String.singleton c' := by
      apply String.toList_injective
      simp [hs]
    rw [htext, String.utf8ByteSize_singleton, hc] at h
    exact absurd h (Nat.lt_irrefl 1)
  · obtain rfl : c' = c := by simpa [hs] using hslash
    exact ⟨d, cs, rfl⟩

/-! ### Judging a line -/

theorem classifyTrimmed_eq_command_iff {cs : List Char} {text : String} :
    classifyTrimmed cs = .command text ↔
      text.toList = cs ∧ ∃ d ds, cs = '/' :: d :: ds ∧ d ≠ '/' := by
  constructor
  · intro h
    unfold classifyTrimmed at h
    split at h
    case h_3 d ds hd =>
      obtain rfl : String.ofList ('/' :: d :: ds) = text := LineKind.command.inj h
      exact ⟨String.toList_ofList, d, ds, rfl, hd⟩
    all_goals exact nomatch h
  · rintro ⟨htext, d, ds, rfl, hd⟩
    rw [classifyTrimmed]
    · rw [← htext, String.ofList_toList]
    · exact hd

/-- A trimmed text is that of a command if it starts with a slash that something other than a slash
follows. -/
theorem isCommandText_iff {s : String} :
    IsCommandText s ↔ trim s = s ∧ ∃ d ds, s.toList = '/' :: d :: ds ∧ d ≠ '/' := by
  constructor
  · intro h
    obtain ⟨d, ds, hs⟩ := exists_toList_of_one_lt h.slash rfl h.longer
    refine ⟨h.trimmed, d, ds, hs, ?_⟩
    rintro rfl
    exact h.no_comment (hs ▸ List.prefix_append ['/', '/'] ds)
  · rintro ⟨htrim, d, ds, hs, hd⟩
    refine ⟨htrim, by rw [hs]; rfl, ?_, one_lt_utf8ByteSize_of_toList hs⟩
    rw [hs]
    simpa using Ne.symm hd

/-- A line is judged to be a command exactly if its trimmed text is that of a command. -/
theorem classify_eq_command_iff {line text : String} :
    classify line = .command text ↔ trim line = text ∧ IsCommandText text := by
  rw [classify, classifyTrimmed_eq_command_iff, isCommandText_iff, ← toList_trim]
  constructor
  · rintro ⟨htext, d, ds, hline, hd⟩
    obtain rfl : text = trim line := String.toList_injective htext
    refine ⟨rfl, ?_, d, ds, hline, hd⟩
    apply String.toList_injective
    rw [toList_trim, toList_trim, trimBy_trimBy]
  · rintro ⟨rfl, -, hslash⟩
    exact ⟨rfl, hslash⟩

theorem parseLine_eq_some_iff {line : String} {c : Command} :
    parseLine line = some c ↔ c = ⟨trim line, 1⟩ ∧ IsCommandText (trim line) := by
  rw [parseLine]
  constructor
  · intro h
    split at h
    case h_1 text htext =>
      obtain ⟨rfl, hcommand⟩ := classify_eq_command_iff.1 htext
      exact ⟨(Option.some.inj h).symm, hcommand⟩
    all_goals exact nomatch h
  · rintro ⟨rfl, hcommand⟩
    rw [classify_eq_command_iff.2 ⟨rfl, hcommand⟩]

/-! ### Reading a whole text -/

/-- Every command comes from a line of its own. -/
theorem exists_line_of_mem_parseLines {n : Nat} {lines : List String} {cs : List Command}
    (h : parseLines n lines = .ok cs) {c : Command} (hc : c ∈ cs) :
    ∃ l ∈ lines, classify l = .command c.text := by
  induction lines generalizing n cs with
  | nil =>
    obtain rfl : [] = cs := Except.ok.inj h
    exact nomatch hc
  | cons l lines ih =>
    rw [parseLines] at h
    split at h
    case h_1 =>
      obtain ⟨l', hl', hclass⟩ := ih h hc
      exact ⟨l', List.mem_cons_of_mem _ hl', hclass⟩
    case h_2 text htext =>
      cases hrest : parseLines (n + 1) lines with
      | error e => simp [hrest] at h
      | ok rest =>
        obtain rfl : ⟨text, n⟩ :: rest = cs := by simpa [hrest] using h
        rcases List.mem_cons.1 hc with rfl | hc
        · exact ⟨l, List.mem_cons_self .., htext⟩
        · obtain ⟨l', hl', hclass⟩ := ih hrest hc
          exact ⟨l', List.mem_cons_of_mem _ hl', hclass⟩
    case h_3 => exact nomatch h

/-- A command stands in the text that it is read from. -/
theorem infix_of_mem_parse {s : String} {cs : List Command} (h : parse s = .ok cs) {c : Command}
    (hc : c ∈ cs) : c.text.toList <:+: s.toList := by
  obtain ⟨l, hl, hclass⟩ := exists_line_of_mem_parseLines h hc
  obtain ⟨line, hline, rfl⟩ := List.mem_map.1 hl
  rw [← (classify_eq_command_iff.1 hclass).1, toList_trim, String.toList_ofList]
  exact (isInfix_trimBy line).trans (infix_of_mem_linesOf hline)

/-- The commands of a text that is cut into lines are unbroken. -/
theorem unbroken_of_mem_parse {s : String} {cs : List Command} (h : parse s = .ok cs) {c : Command}
    (hc : c ∈ cs) : IsCommandText c.text ∧ IsUnbroken c.text := by
  obtain ⟨l, hl, hclass⟩ := exists_line_of_mem_parseLines h hc
  obtain ⟨htrim, hcommand⟩ := classify_eq_command_iff.1 hclass
  refine ⟨hcommand, fun d hd ↦ ?_⟩
  obtain ⟨line, hline, rfl⟩ := List.mem_map.1 hl
  rw [← htrim, toList_trim, String.toList_ofList] at hd
  exact forall_ne_of_mem_linesOf hline d (mem_of_mem_trimBy hd)

/-- The text of a command is read as that one command exactly if it is unbroken. -/
theorem parse_text_iff {s : String} (h : IsCommandText s) :
    parse s = .ok [⟨s, 1⟩] ↔ IsUnbroken s := by
  constructor
  · intro hparse
    exact (unbroken_of_mem_parse hparse (List.mem_singleton_self _)).2
  · intro hunbroken
    have hlines : splitLines s = [s] := by
      rw [splitLines, linesOf_of_forall_ne hunbroken, List.map_singleton, String.ofList_toList]
    have hclass : classify s = .command s := classify_eq_command_iff.2 ⟨h.trimmed, h⟩
    rw [parse, hlines, parseLines, hclass]
    rfl

end LineParser

/-- A command that is one line of the command language. -/
structure Command.IsLine (c : Command) : Prop where
  unbroken : LineParser.IsUnbroken c.text
  text : LineParser.IsCommandText c.text
  /-- Read as a whole text it is that command, and no other. -/
  parse : LineParser.parse c.text = .ok [⟨c.text, 1⟩]

theorem Command.isLine_iff {c : Command} (h : LineParser.IsCommandText c.text) :
    c.IsLine ↔ LineParser.IsUnbroken c.text := by
  constructor
  · exact fun hline ↦ hline.unbroken
  · exact fun hunbroken ↦ ⟨hunbroken, h, (LineParser.parse_text_iff h).2 hunbroken⟩

end MacroStream
