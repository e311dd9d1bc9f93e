import MacroStream.Proofs.CommandText

/-!
# The commands of a text, line by line

What reading a whole text comes to, said of its numbered lines: if any line is malformed, the first
such line is complained of; otherwise every line with a command gives that command, with the number
of the line. Numbers count all lines, also those that say nothing.

Reading a single line is the same as reading it as a text, as long as it is one line. Two things are
lost: the complaint about a malformed line, and how a comment differs from it.
-/

namespace MacroStream

namespace LineParser

open Text

/-! ### Lines -/

/-- The line says nothing: trimmed it is empty, or a comment. -/
def IsSkipped (line : String) : Prop := trim line = "" ∨ ['/', '/'] <+: (trim line).toList

instance : DecidablePred IsSkipped := fun _ ↦ inferInstanceAs (Decidable (_ ∨ _))

/-- Trimmed, the line starts with a slash and is longer than one byte. -/
def IsSlashed (line : String) : Prop :=
  (trim line).toList.head? = some '/' ∧ 1 < (trim line).utf8ByteSize

instance : DecidablePred IsSlashed := fun _ ↦ inferInstanceAs (Decidable (_ ∧ _))

/-- The line says something that is no command. -/
def IsMalformed (line : String) : Prop := ¬IsSkipped line ∧ ¬IsSlashed line

instance : DecidablePred IsMalformed := fun _ ↦ inferInstanceAs (Decidable (_ ∧ _))

/-- The three kinds of lines, by their trimmed texts. -/
theorem classify_eq (line : String) :
    classify line =
      if IsSkipped line then .skip
      else if IsSlashed line then .command (trim line) else .invalid (trim line) := by
  have hskipped : IsSkipped line ↔
      (trim line).toList = [] ∨ ['/', '/'] <+: (trim line).toList := by
    rw [IsSkipped, String.toList_eq_nil_iff]
  have htext : String.ofList (trim line).toList = trim line := String.ofList_toList
  rw [classify, ← toList_trim]
  rcases hcs : (trim line).toList with _ | ⟨c, _ | ⟨d, ds⟩⟩
  · rw [hcs] at hskipped
    simp [classifyTrimmed, hskipped]
  · -- A single slash is too short for a command.
    have hslashed : ¬IsSlashed line := by
      rintro ⟨hslash, hlong⟩
      obtain rfl : c = '/' := by simpa [hcs] using hslash
      obtain ⟨d, ds, hds⟩ := exists_toList_of_one_lt hslash (by decide) hlong
      simp [hcs] at hds
    rw [hcs] at hskipped htext
    simp [classifyTrimmed, hskipped, hslashed, htext]
  · have hslashed : IsSlashed line ↔ c = '/' := by
      simp [IsSlashed, hcs, one_lt_utf8ByteSize_of_toList hcs]
    rw [hcs] at hskipped htext
    by_cases hc : c = '/'
    · subst hc
      by_cases hd : d = '/'
      · subst hd
        simp [classifyTrimmed, hskipped]
      · simp [classifyTrimmed, hskipped, hslashed, Ne.symm hd, htext]
    · simp [classifyTrimmed, hskipped, hslashed, hc, Ne.symm hc, htext]

/-! ### Numbered lines -/

/-- The lines of a text with their numbers, counted from 1. -/
def numberedLines (text : String) : List (String × Nat) := (splitLines text).zipIdx 1

/-- The command of a line with its number, if the line holds one. -/
def commandOf? (line : String × Nat) : Option Command :=
  if ¬IsSkipped line.1 ∧ IsSlashed line.1 then some ⟨trim line.1, line.2⟩ else none

/-- What some numbered lines are read as. -/
def readNumbered (lines : List (String × Nat)) : Outcome (List Command) :=
  match lines.find? fun l ↦ IsMalformed l.1 with
  | some (line, n) => .error (.parse n ("expected a /command, found `" ++ trim line ++ "`"))
  | none => .ok (lines.filterMap commandOf?)

theorem readNumbered_cons (line : String) (n : Nat) (lines : List (String × Nat)) :
    readNumbered ((line, n) :: lines) =
      if IsSkipped line then readNumbered lines
      else if IsSlashed line then (readNumbered lines).map (⟨trim line, n⟩ :: ·)
      else .error (malformed n (trim line)) := by
  by_cases hskipped : IsSkipped line
  · simp [readNumbered, IsMalformed, commandOf?, hskipped]
  · by_cases hslashed : IsSlashed line
    · have hnot : ¬IsMalformed line := fun h ↦ h.2 hslashed
      have hcommand : commandOf? (line, n) = some ⟨trim line, n⟩ := if_pos ⟨hskipped, hslashed⟩
      rw [if_neg hskipped, if_pos hslashed, readNumbered,
        List.find?_cons_of_neg (by simpa using hnot), List.filterMap_cons_some hcommand,
        readNumbered]
      cases lines.find? fun l ↦ IsMalformed l.1 <;> rfl
    · simp [readNumbered, IsMalformed, hskipped, hslashed, malformed]

theorem parseLines_eq (n : Nat) (lines : List String) :
    parseLines n lines = readNumbered (lines.zipIdx n) := by
  induction lines generalizing n with
  | nil => rfl
  | cons line lines ih =>
    rw [List.zipIdx_cons, readNumbered_cons, parseLines, classify_eq, ← ih]
    by_cases hskipped : IsSkipped line
    · simp [hskipped]
    · by_cases hslashed : IsSlashed line
      · simp only [hskipped, hslashed, if_true, if_false]
        cases parseLines (n + 1) lines <;> rfl
      · simp [hskipped, hslashed]

theorem parse_eq (text : String) : parse text = readNumbered (numberedLines text) :=
  parseLines_eq 1 _

/-! ### Numbers -/

/-- The numbers of commands grow with the lines that they stand on. -/
theorem pairwise_line_filterMap (n : Nat) (lines : List String) :
    ((lines.zipIdx n).filterMap commandOf?).Pairwise fun c d ↦ c.line < d.line := by
  have hnumbers : (lines.zipIdx n).Pairwise fun l l' ↦ l.2 < l'.2 := by
    rw [← List.pairwise_map, List.zipIdx_map_snd]
    exact List.pairwise_lt_range'
  refine hnumbers.filterMap commandOf? fun l l' hlt c hc c' hc' ↦ ?_
  have hline {l : String × Nat} {c : Command} (hc : commandOf? l = some c) : c.line = l.2 := by
    rw [commandOf?] at hc
    split at hc
    · rw [← Option.some.inj hc]
    · exact nomatch hc
  rw [hline hc, hline hc']
  exact hlt

/-! ### Single lines -/

theorem parse_of_isUnbroken {line : String} (h : IsUnbroken line) :
    parse line = readNumbered [(line, 1)] := by
  have hlines : splitLines line = [line] := by
    rw [splitLines, linesOf_of_forall_ne h, List.map_singleton, String.ofList_toList]
  rw [parse_eq, numberedLines, hlines]
  rfl

/-- **Reading line by line.** A text is read as its numbered lines are: the first malformed one
decides, and without one each command stands with the number of its line, in order. A single line
gives the command that it is read as when it is taken for a text, and nothing if that is not one
command. -/
theorem parse_numberedLines (text : String) :
    (parse text =
      match (numberedLines text).find? fun l ↦ IsMalformed l.1 with
      | some (line, n) => .error (.parse n ("expected a /command, found `" ++ trim line ++ "`"))
      | none => .ok ((numberedLines text).filterMap commandOf?)) ∧
    (∀ cs, parse text = .ok cs → cs.Pairwise fun c d ↦ c.line < d.line) ∧
    ∀ line, IsUnbroken line →
      (∀ c, parseLine line = some c ↔ parse line = .ok [c]) ∧
      (parseLine line = none ↔ parse line = .ok [] ∨ ∃ e, parse line = .error e) := by
  refine ⟨parse_eq text, fun cs hcs ↦ ?_, fun line hline ↦ ?_⟩
  · rw [parse_eq, readNumbered] at hcs
    split at hcs
    · exact nomatch hcs
    · rw [← Except.ok.inj hcs]
      exact pairwise_line_filterMap 1 _
  · rw [parse_of_isUnbroken hline, readNumbered_cons, parseLine, classify_eq]
    by_cases hskipped : IsSkipped line
    · simp [hskipped, readNumbered]
    · by_cases hslashed : IsSlashed line
      · simp [hskipped, hslashed, readNumbered, Except.map]
      · simp [hskipped, hslashed]

/-- A line between blanks that are not all ASCII. -/
theorem parse_numberedLines_padded :
    IsUnbroken "\u3000/é\u00a0" ∧ parseLine "\u3000/é\u00a0" = some ⟨"/é", 1⟩ ∧
      parse "\u3000/é\u00a0" = .ok [⟨"/é", 1⟩] := by
  have hline : IsUnbroken "\u3000/é\u00a0" := by
    simp [IsUnbroken]
  have hcommand : parseLine "\u3000/é\u00a0" = some ⟨"/é", 1⟩ := rfl
  exact ⟨hline, hcommand, (((parse_numberedLines "").2.2 _ hline).1 _).1 hcommand⟩

end LineParser

end MacroStream
