import MacroStream.Text.Lines

/-!
# Laws of line cutting

How the lines of a text come from the lines of its pieces. Cutting commutes with appending: the last
line of the first piece and the first line of the second become one line, as `glue` says. The only
seam where this fails is one that puts a `\r` in front of a `\n`, since the two are one terminator.
-/

namespace MacroStream.Text

/-! ### Cutting off the first character -/

@[simp]
theorem linesOf_lf (cs : List Char) : linesOf ('\n' :: cs) = [] :: linesOf cs := by
  rw [linesOf]
  · simp
  · simp

@[simp]
theorem linesOf_crlf (cs : List Char) : linesOf ('\r' :: '\n' :: cs) = [] :: linesOf cs := by
  rw [linesOf]

theorem linesOf_cr {cs : List Char} (h : cs.head? ≠ some '\n') :
    linesOf ('\r' :: cs) = [] :: linesOf cs := by
  rw [linesOf]
  · simp
  · rintro ds - rfl
    exact h rfl

theorem linesOf_cons {c : Char} (hr : c ≠ '\r') (hn : c ≠ '\n') (cs : List Char) :
    linesOf (c :: cs) = consFirst c (linesOf cs) := by
  rw [linesOf]
  · simp [hr, hn]
  · rintro ds rfl
    exact absurd rfl hr

/-- A text without terminators is one line. -/
theorem linesOf_of_forall_ne {cs : List Char} (h : ∀ c ∈ cs, c ≠ '\r' ∧ c ≠ '\n') :
    linesOf cs = [cs] := by
  induction cs with
  | nil => rfl
  | cons c cs ih =>
    obtain ⟨hc, hcs⟩ := List.forall_mem_cons.1 h
    rw [linesOf_cons hc.1 hc.2, ih hcs]
    rfl

/-- There is no terminator left in a line. -/
theorem forall_ne_of_mem_linesOf {cs line : List Char} (h : line ∈ linesOf cs) :
    ∀ c ∈ line, c ≠ '\r' ∧ c ≠ '\n' := by
  fun_induction linesOf cs generalizing line with
  | case1 =>
    rw [List.mem_singleton.1 h]
    simp
  | case2 cs ih =>
    rcases List.mem_cons.1 h with rfl | h
    · simp
    · exact ih h
  | case3 c cs _ _ ih =>
    rcases List.mem_cons.1 h with rfl | h
    · simp
    · exact ih h
  | case4 c cs _ hc ih =>
    rw [not_or] at hc
    -- The character lengthens the first line of the rest; the other lines are those of the rest.
    cases hrest : linesOf cs with
    | nil => exact absurd hrest (linesOf_ne_nil cs)
    | cons first rest =>
      rw [hrest] at h ih
      rcases List.mem_cons.1 h with rfl | h
      · exact List.forall_mem_cons.2 ⟨hc, ih (List.mem_cons_self ..)⟩
      · exact ih (List.mem_cons_of_mem _ h)

/-- A line stands in the text. -/
theorem infix_of_mem_linesOf {cs line : List Char} (h : line ∈ linesOf cs) : line <:+: cs := by
  -- The first line even begins the text, which is what a character in front of it asks for.
  suffices hall : (∀ first ∈ (linesOf cs).head?, first <+: cs) ∧ ∀ l ∈ linesOf cs, l <:+: cs from
    hall.2 line h
  clear h
  fun_induction linesOf cs with
  | case1 => simp
  | case2 cs ih =>
    refine ⟨by simp, List.forall_mem_cons.2 ⟨List.nil_infix, fun l hl ↦ ?_⟩⟩
    exact (ih.2 l hl).trans ⟨['\r', '\n'], [], by simp⟩
  | case3 c cs _ _ ih =>
    refine ⟨by simp, List.forall_mem_cons.2 ⟨List.nil_infix, fun l hl ↦ ?_⟩⟩
    exact List.infix_cons (ih.2 l hl)
  | case4 c cs _ _ ih =>
    obtain ⟨first, rest, hlines⟩ := List.exists_cons_of_ne_nil (linesOf_ne_nil cs)
    rw [hlines] at ih ⊢
    have hfirst : c :: first <+: c :: cs := (List.prefix_cons_inj c).2 (ih.1 first rfl)
    refine ⟨fun l hl ↦ ?_, List.forall_mem_cons.2 ⟨hfirst.isInfix, fun l hl ↦ ?_⟩⟩
    · obtain rfl : c :: first = l := Option.some.inj hl
      exact hfirst
    · exact List.infix_cons (ih.2 l (List.mem_cons_of_mem first hl))

/-! ### Gluing -/

/-- Puts two lists of lines together, with the last line of the first and the first line of the
second in one. -/
def glue : List (List Char) → List (List Char) → List (List Char)
  | [], ys => ys
  | [x], [] => [x]
  | [x], y :: ys => (x ++ y) :: ys
  | x :: x' :: xs, ys => x :: glue (x' :: xs) ys

theorem glue_cons (x : List Char) {xs : List (List Char)} (h : xs ≠ []) (ys : List (List Char)) :
    glue (x :: xs) ys = x :: glue xs ys := by
  cases xs with
  | nil => exact absurd rfl h
  | cons => rfl

theorem glue_singleton_nil {ys : List (List Char)} (h : ys ≠ []) : glue [[]] ys = ys := by
  cases ys with
  | nil => exact absurd rfl h
  | cons => rfl

/-- An empty line in front of the second list leaves the first as it is. -/
theorem glue_nil_cons {xs : List (List Char)} (h : xs ≠ []) (ys : List (List Char)) :
    glue xs ([] :: ys) = xs ++ ys := by
  induction xs with
  | nil => exact absurd rfl h
  | cons x xs ih =>
    rcases xs with _ | ⟨x', xs⟩
    · simp [glue]
    · rw [glue_cons x (by simp), ih (by simp)]
      rfl

theorem glue_singleton {xs : List (List Char)} (h : xs ≠ []) (y : List Char) :
    glue xs [y] = xs.dropLast ++ [xs.getLast h ++ y] := by
  induction xs with
  | nil => exact absurd rfl h
  | cons x xs ih =>
    rcases xs with _ | ⟨x', xs⟩
    · rfl
    · rw [glue_cons x (by simp), ih (by simp)]
      rfl

theorem consFirst_glue (c : Char) {xs : List (List Char)} (h : xs ≠ []) (ys : List (List Char)) :
    consFirst c (glue xs ys) = glue (consFirst c xs) ys := by
  rcases xs with _ | ⟨x, _ | ⟨x', xs⟩⟩
  · exact absurd rfl h
  · cases ys <;> rfl
  · rfl

/-! ### Appending -/

/-- A seam that makes no `\r\n` of a `\r` and a `\n`. -/
def CleanSeam (a b : List Char) : Prop := a.getLast? = some '\r' → b.head? ≠ some '\n'

theorem CleanSeam.of_getLast? {a : List Char} (h : a.getLast? ≠ some '\r') (b : List Char) :
    CleanSeam a b := fun ha ↦ absurd ha h

theorem CleanSeam.tail {c : Char} {a b : List Char} (h : CleanSeam (c :: a) b) : CleanSeam a b := by
  intro ha
  refine h ?_
  rw [List.getLast?_cons, ha]
  rfl

/-- Cutting commutes with appending. -/
theorem linesOf_append {a b : List Char} (h : CleanSeam a b) :
    linesOf (a ++ b) = glue (linesOf a) (linesOf b) := by
  fun_induction linesOf a with
  | case1 => exact (glue_singleton_nil (linesOf_ne_nil b)).symm
  | case2 cs ih =>
    rw [List.cons_append, List.cons_append, linesOf_crlf, ih h.tail.tail,
      glue_cons [] (linesOf_ne_nil cs)]
  | case3 c cs hcs hc ih =>
    rw [List.cons_append, glue_cons [] (linesOf_ne_nil cs), ← ih h.tail]
    rcases hc with rfl | rfl
    · -- A `\r` that ends `a` is the only place where the seam matters.
      refine linesOf_cr ?_
      rcases cs with _ | ⟨d, cs⟩
      · exact h rfl
      · rintro ⟨⟩
        exact hcs cs rfl rfl
    · exact linesOf_lf _
  | case4 c cs hcs hc ih =>
    simp only [not_or] at hc
    rw [List.cons_append, linesOf_cons hc.1 hc.2, ih h.tail, consFirst_glue c (linesOf_ne_nil cs)]

/-- A `\n` between two texts ends a line, unless it completes a `\r\n`. -/
theorem linesOf_append_lf {a : List Char} (h : a.getLast? ≠ some '\r') (b : List Char) :
    linesOf (a ++ '\n' :: b) = linesOf a ++ linesOf b := by
  rw [linesOf_append (.of_getLast? h _), linesOf_lf, glue_nil_cons (linesOf_ne_nil a)]

theorem linesOf_append_crlf (a b : List Char) :
    linesOf (a ++ '\r' :: '\n' :: b) = linesOf a ++ linesOf b := by
  rw [linesOf_append (fun _ ↦ by simp), linesOf_crlf, glue_nil_cons (linesOf_ne_nil a)]

theorem linesOf_append_cr (a : List Char) {b : List Char} (h : b.head? ≠ some '\n') :
    linesOf (a ++ '\r' :: b) = linesOf a ++ linesOf b := by
  rw [linesOf_append (fun _ ↦ by simp), linesOf_cr h, glue_nil_cons (linesOf_ne_nil a)]

theorem splitLines_append_lf {a : String} (h : a.toList.getLast? ≠ some '\r') (b : String) :
    splitLines (a ++ "\n" ++ b) = splitLines a ++ splitLines b := by
  have hseam : (a ++ "\n" ++ b).toList = a.toList ++ '\n' :: b.toList := by simp
  rw [splitLines, hseam, linesOf_append_lf h, List.map_append, splitLines, splitLines]

/-- A line end behind a line is found, if it is not continued by what follows. -/
theorem linesOf_append_lineEnd {line cs : List Char}
    (hline : ∀ c ∈ line, c ≠ '\r' ∧ c ≠ '\n') (e : LineEnd)
    (hseam : e = .cr → cs.head? ≠ some '\n') :
    linesOf (line ++ (e.chars ++ cs)) = line :: linesOf cs := by
  have hone := linesOf_of_forall_ne hline
  cases e with
  | lf =>
    have hlast : line.getLast? ≠ some '\r' := fun h ↦ (hline _ (List.mem_of_getLast? h)).1 rfl
    rw [LineEnd.chars, List.singleton_append, linesOf_append_lf hlast, hone, List.singleton_append]
  | cr => rw [LineEnd.chars, List.singleton_append, linesOf_append_cr _ (hseam rfl), hone,
      List.singleton_append]
  | crlf =>
    rw [LineEnd.chars, List.cons_append, List.singleton_append, linesOf_append_crlf, hone,
      List.singleton_append]

/-- Lines with a `\n` between each two of them are found again. -/
theorem linesOf_intercalate_lf {lines : List (List Char)} (hne : lines ≠ [])
    (hlines : ∀ line ∈ lines, ∀ c ∈ line, c ≠ '\r' ∧ c ≠ '\n') :
    linesOf (['\n'].intercalate lines) = lines := by
  induction lines with
  | nil => exact absurd rfl hne
  | cons line lines ih =>
    obtain ⟨hline, hlines⟩ := List.forall_mem_cons.1 hlines
    rcases lines with _ | ⟨line', lines⟩
    · rw [List.intercalate_singleton, linesOf_of_forall_ne hline]
    · rw [List.intercalate_cons_cons, List.append_assoc]
      refine (linesOf_append_lineEnd hline .lf nofun).trans ?_
      rw [ih (List.cons_ne_nil _ _) hlines]

theorem splitLines_intercalate_lf {lines : List String} (hne : lines ≠ [])
    (hlines : ∀ line ∈ lines, ∀ c ∈ line.toList, c ≠ '\r' ∧ c ≠ '\n') :
    splitLines ("\n".intercalate lines) = lines := by
  have hlf : "\n".toList = ['\n'] := rfl
  rw [splitLines, String.toList_intercalate, hlf, linesOf_intercalate_lf, List.map_map]
  · simp [Function.comp_def]
  · simpa using hne
  · exact List.forall_mem_map.2 hlines

theorem forall_ne_of_mem_splitLines {s line : String} (h : line ∈ splitLines s) :
    ∀ c ∈ line.toList, c ≠ '\r' ∧ c ≠ '\n' := by
  obtain ⟨l, hl, rfl⟩ := List.mem_map.1 h
  rw [String.toList_ofList]
  exact forall_ne_of_mem_linesOf hl

/-- A character that ends no line lengthens the last one. -/
theorem linesOf_concat (cs : List Char) {c : Char} (hr : c ≠ '\r') (hn : c ≠ '\n') :
    linesOf (cs ++ [c]) =
      (linesOf cs).dropLast ++ [(linesOf cs).getLast (linesOf_ne_nil cs) ++ [c]] := by
  have hline : linesOf [c] = [[c]] := linesOf_of_forall_ne (by simp [hr, hn])
  rw [linesOf_append (fun _ ↦ by simpa using hn), hline, glue_singleton]

end MacroStream.Text
