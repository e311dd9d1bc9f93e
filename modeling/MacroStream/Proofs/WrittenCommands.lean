import Mathlib.Data.List.Basic
import MacroStream.Proofs.CommandText

/-!
# Commands written out

The commands of a text, written one behind the other with any line ends between them, are read as
they were: the same texts in the same order, now on lines 1, 2 and so on. The text of a command is a
line, it is not empty, and it does not begin with a terminator (`LineParser.unbroken_of_mem_parse`).
So the line ends that are written are those that are found: none stands in a text, and no `\r` gets
a `\n` behind it that was not written with it. And what is read of a line is its command, since
there is nothing to be trimmed.

Reading forgets where the commands stood, and nothing else. What was read once and written out is
read as the very same commands from then on.
-/

namespace MacroStream

namespace Text

/-- Lines written one behind the other, with any line ends between them. -/
inductive Joined : List (List Char) → List Char → Prop
  | nil : Joined [] []
  | last (line : List Char) : Joined [line] line
  | cons (line : List Char) (e : LineEnd) {line' : List Char} {lines : List (List Char)}
      {cs : List Char} (h : Joined (line' :: lines) cs) :
      Joined (line :: line' :: lines) (line ++ (e.chars ++ cs))

variable {line : List Char} {lines : List (List Char)} {cs : List Char}

theorem Joined.head?_eq (h : Joined (line :: lines) cs) (hline : line ≠ []) :
    cs.head? = line.head? := by
  cases h with
  | last => rfl
  | cons _ e h => exact List.head?_append_of_ne_nil _ hline

/-- Lines that are not empty are found again, whatever they are joined by. -/
theorem Joined.linesOf_eq (h : Joined lines cs) (hne : lines ≠ [])
    (hlines : ∀ line ∈ lines, line ≠ [] ∧ ∀ c ∈ line, c ≠ '\r' ∧ c ≠ '\n') :
    linesOf cs = lines := by
  induction h with
  | nil => exact absurd rfl hne
  | last line => exact linesOf_of_forall_ne (hlines line List.mem_cons_self).2
  | @cons line e line' lines cs h ih =>
    obtain ⟨hline, hlines⟩ := List.forall_mem_cons.1 hlines
    obtain ⟨hne', hline'⟩ := hlines line' List.mem_cons_self
    rw [linesOf_append_lineEnd hline.2 e fun _ ↦ ?_, ih (List.cons_ne_nil _ _) hlines]
    rw [h.head?_eq hne']
    exact fun hlf ↦ (hline' _ (List.mem_of_mem_head? hlf)).2 rfl

end Text

namespace LineParser

open Text

/-- Commands with the given texts, one on each line from line `n` on. -/
def onLines (n : Nat) (texts : List String) : List Command :=
  (texts.zipIdx n).map fun (text, line) ↦ ⟨text, line⟩

variable {texts : List String} {s : String}

theorem map_text_onLines (n : Nat) (texts : List String) :
    (onLines n texts).map Command.text = texts := by
  rw [onLines, List.map_map]
  exact List.zipIdx_map_fst n texts

theorem map_line_onLines (n : Nat) (texts : List String) :
    (onLines n texts).map Command.line = List.range' n texts.length := by
  rw [onLines, List.map_map]
  exact List.zipIdx_map_snd n texts

/-- Each text of a command is read as that command. -/
theorem parseLines_texts (h : ∀ text ∈ texts, IsCommandText text) (n : Nat) :
    parseLines n texts = .ok (onLines n texts) := by
  induction texts generalizing n with
  | nil => rfl
  | cons text texts ih =>
    obtain ⟨htext, htexts⟩ := List.forall_mem_cons.1 h
    rw [parseLines, classify_eq_command_iff.2 ⟨htext.trimmed, htext⟩, ih htexts]
    rfl

theorem IsCommandText.toList_ne_nil (h : IsCommandText s) : s.toList ≠ [] := by
  intro hnil
  have hslash := h.slash
  rw [hnil] at hslash
  exact nomatch hslash

/-- Texts of commands that are lines are read again from any text that they are joined to. -/
theorem parse_of_joined (htexts : ∀ text ∈ texts, IsCommandText text ∧ IsUnbroken text)
    (hs : Joined (texts.map String.toList) s.toList) : parse s = .ok (onLines 1 texts) := by
  by_cases hne : texts = []
  · subst hne
    have hempty : s.toList = [] := by
      generalize s.toList = cs at hs
      cases hs
      rfl
    rw [parse, splitLines, hempty]
    rfl
  · have hlines : linesOf s.toList = texts.map String.toList := by
      refine hs.linesOf_eq (by simpa using hne) fun line hline ↦ ?_
      obtain ⟨text, htext, rfl⟩ := List.mem_map.1 hline
      exact ⟨(htexts text htext).1.toList_ne_nil, (htexts text htext).2⟩
    have hsplit : splitLines s = texts := by
      rw [splitLines, hlines, List.map_map]
      simp [Function.comp_def]
    rw [parse, hsplit, parseLines_texts fun text htext ↦ (htexts text htext).1]

/-- Commands with the same texts are equal as commands are. -/
theorem beq_of_map_text_eq {cs ds : List Command}
    (h : cs.map Command.text = ds.map Command.text) : (cs == ds) = true := by
  induction cs generalizing ds with
  | nil =>
    obtain rfl : ds = [] := List.map_eq_nil_iff.1 h.symm
    rfl
  | cons c cs ih =>
    obtain ⟨d, ds, rfl, hd, hds⟩ := List.map_eq_cons_iff.1 h.symm
    rw [List.cons_beq_cons, Bool.and_eq_true]
    exact ⟨(Command.beq_iff c d).2 hd.symm, ih hds.symm⟩

/-- **Reading what was written.** The commands of a text, written with any line ends between them,
are read as the same commands, on lines 1, 2 and so on. Reading these and writing them out changes
nothing any more. -/
theorem parse_joined {s : String} {cs : List Command} (h : parse s = .ok cs) {t : String}
    (ht : Joined (cs.map fun c ↦ c.text.toList) t.toList) :
    ∃ ds, parse t = .ok ds ∧ (ds == cs) = true ∧ ds.map Command.text = cs.map Command.text ∧
      ds.map Command.line = List.range' 1 cs.length ∧
      ∀ t' : String, Joined (ds.map fun d ↦ d.text.toList) t'.toList → parse t' = .ok ds := by
  have htexts : ∀ text ∈ cs.map Command.text, IsCommandText text ∧ IsUnbroken text := by
    intro text htext
    obtain ⟨c, hc, rfl⟩ := List.mem_map.1 htext
    exact unbroken_of_mem_parse h hc
  have hsame := map_text_onLines 1 (cs.map Command.text)
  have hwritten (ds : List Command) : (ds.map fun d ↦ d.text.toList) =
      (ds.map Command.text).map String.toList := by
    rw [List.map_map]
    rfl
  refine ⟨onLines 1 (cs.map Command.text), parse_of_joined htexts ?_, beq_of_map_text_eq hsame,
    hsame, ?_, fun t' ht' ↦ parse_of_joined htexts ?_⟩
  · rwa [← hwritten]
  · rw [map_line_onLines, List.length_map]
  · rwa [hwritten, hsame] at ht'

/-- Two commands with blanks and a comment around them, written with a lone `\r` between them. -/
theorem parse_joined_cr :
    parse "// two\n\n /a\n\u3000/b " = .ok [⟨"/a", 3⟩, ⟨"/b", 4⟩] ∧
      Joined ["/a".toList, "/b".toList] "/a\r/b".toList ∧
      ∃ ds, parse "/a\r/b" = .ok ds ∧ ds.map Command.text = ["/a", "/b"] ∧
        ds.map Command.line = [1, 2] := by
  have hparse : parse "// two\n\n /a\n\u3000/b " = .ok [⟨"/a", 3⟩, ⟨"/b", 4⟩] := rfl
  have hjoined : Joined ["/a".toList, "/b".toList] "/a\r/b".toList :=
    .cons "/a".toList .cr (.last "/b".toList)
  obtain ⟨ds, hds, -, htexts, hlines, -⟩ := parse_joined hparse hjoined
  exact ⟨hparse, hjoined, ds, hds, htexts, hlines⟩

end LineParser

end MacroStream
