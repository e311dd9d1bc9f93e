import MacroStream.Proofs.Text.Lines

/-!
# Lines and line ends

What a text is made of: lines, and a line end between each two of them. `IsCut` says so, and the one
thing that has to be said about line ends is that a `\r` is not one by itself where a `\n` follows
it. With that there is one way to cut a text, and the lines are those that `linesOf` answers:
nothing of a text is lost, and a text that was put together from lines is cut into these again.
-/

namespace MacroStream.Text

/-- A text is cut into lines, with the line ends that stand between them. There is no line end in a
line, and a `\r` that is a line end has no `\n` behind it. -/
inductive IsCut : List (List Char) → List LineEnd → List Char → Prop
  | last {line : List Char} (hline : ∀ c ∈ line, c ≠ '\r' ∧ c ≠ '\n') : IsCut [line] [] line
  | cons {line : List Char} {e : LineEnd} {lines : List (List Char)} {ends : List LineEnd}
      {cs : List Char} (hline : ∀ c ∈ line, c ≠ '\r' ∧ c ≠ '\n')
      (hseam : e = .cr → cs.head? ≠ some '\n') (hrest : IsCut lines ends cs) :
      IsCut (line :: lines) (e :: ends) (line ++ (e.chars ++ cs))

variable {lines lines' : List (List Char)} {ends ends' : List LineEnd} {cs cs' : List Char}

/-- There is one line more than there are line ends. -/
theorem IsCut.length_eq (h : IsCut lines ends cs) : lines.length = ends.length + 1 := by
  induction h with
  | last => rfl
  | cons _ _ _ ih => rw [List.length_cons, List.length_cons, ih]

/-- Lines that were put together are found again. -/
theorem IsCut.linesOf_eq (h : IsCut lines ends cs) : linesOf cs = lines := by
  induction h with
  | last hline => exact linesOf_of_forall_ne hline
  | cons hline hseam _ ih => rw [linesOf_append_lineEnd hline _ hseam, ih]

/-- A character that is no line end lengthens the first line. -/
theorem IsCut.consFirst {c : Char} (hr : c ≠ '\r') (hn : c ≠ '\n') (h : IsCut lines ends cs) :
    IsCut (consFirst c lines) ends (c :: cs) := by
  have hlonger {line : List Char} (hline : ∀ d ∈ line, d ≠ '\r' ∧ d ≠ '\n') :
      ∀ d ∈ c :: line, d ≠ '\r' ∧ d ≠ '\n' := List.forall_mem_cons.2 ⟨⟨hr, hn⟩, hline⟩
  cases h with
  | last hline => exact .last (hlonger hline)
  | cons hline hseam hrest => exact .cons (hlonger hline) hseam hrest

/-- Every text is cut into the lines that are found in it. -/
theorem exists_isCut (cs : List Char) : ∃ ends, IsCut (linesOf cs) ends cs := by
  have hempty : ∀ c ∈ ([] : List Char), c ≠ '\r' ∧ c ≠ '\n' := by simp
  fun_induction linesOf cs with
  | case1 => exact ⟨[], .last hempty⟩
  | case2 cs ih =>
    obtain ⟨ends, h⟩ := ih
    exact ⟨.crlf :: ends, .cons hempty (by simp) h⟩
  | case3 c cs hcs hc ih =>
    obtain ⟨ends, h⟩ := ih
    rcases hc with rfl | rfl
    · refine ⟨.cr :: ends, .cons hempty (fun _ hhead ↦ ?_) h⟩
      obtain ⟨ds, rfl⟩ := List.head?_eq_some_iff.1 hhead
      exact hcs ds rfl rfl
    · exact ⟨.lf :: ends, .cons hempty (by simp) h⟩
  | case4 c cs _ hc ih =>
    obtain ⟨ends, h⟩ := ih
    rw [not_or] at hc
    exact ⟨ends, h.consFirst hc.1 hc.2⟩

/-- The line end that a text begins with can be told from the text. -/
theorem LineEnd.eq_of_chars_append {e e' : LineEnd} (hseam : e = .cr → cs.head? ≠ some '\n')
    (hseam' : e' = .cr → cs'.head? ≠ some '\n') (h : e.chars ++ cs = e'.chars ++ cs') :
    e = e' ∧ cs = cs' := by
  cases e <;> cases e' <;> grind [LineEnd.chars]

/-- The line ends of a text can be told from the text. -/
theorem IsCut.ends_eq (h : IsCut lines ends cs) (h' : IsCut lines ends' cs) : ends = ends' := by
  induction h generalizing ends' with
  | last =>
    have hlength : ends'.length = 0 := Nat.succ.inj h'.length_eq.symm
    exact (List.length_eq_zero_iff.1 hlength).symm
  | @cons line e lines ends cs hline hseam hrest ih =>
    generalize hcs : line ++ (e.chars ++ cs) = ds at h'
    cases h' with
    | last => exact nomatch hrest
    | cons hline' hseam' hrest' =>
      obtain ⟨rfl, rfl⟩ := LineEnd.eq_of_chars_append hseam hseam' (List.append_cancel_left hcs)
      rw [ih hrest']

end MacroStream.Text
