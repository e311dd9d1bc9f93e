import MacroStream.Proofs.Text.Lines
import MacroStream.Script.EntrypointSource

/-!
# The lines of an entrypoint

The chunk of a macro is written line by line: two lines in front, the lines of the macro behind two
spaces, and two lines behind. Whatever line ends a macro has, its chunk has line feeds alone, and no
line is lost or broken. So a line of the chunk is two lines further down than in the macro, where
an error in it is to be looked for. The line ends themselves are all that is forgotten.
-/

namespace MacroStream.Script

open Text

/-- The lines in front of a macro. -/
def openingLines : List String := ["yield = coroutine.yield", "local function entrypoint()"]

/-- The lines behind a macro. -/
def closingLines : List String := ["end", "return coroutine.create(entrypoint)"]

/-- The lines of a macro as they are in its chunk. -/
def indentedBody (source : String) : List String := (splitLines source).map (bodyIndent ++ ·)

theorem openingLines_ne_nil : openingLines ≠ [] :=
  List.cons_ne_nil _ _

theorem closingLines_ne_nil : closingLines ≠ [] :=
  List.cons_ne_nil _ _

theorem indentedBody_ne_nil (source : String) : indentedBody source ≠ [] := by
  rw [indentedBody, splitLines]
  simpa using linesOf_ne_nil source.toList

/-- A chunk is its lines with a line feed between each two of them. -/
theorem entrypointSource_eq_intercalate (source : String) :
    entrypointSource source =
      "\n".intercalate (openingLines ++ (indentedBody source ++ closingLines)) := by
  have hopening : "\n".intercalate openingLines ++ "\n" =
      "yield = coroutine.yield\nlocal function entrypoint()\n" := by decide
  have hclosing : "\n" ++ "\n".intercalate closingLines =
      "\nend\nreturn coroutine.create(entrypoint)" := by decide
  have hbody := indentedBody_ne_nil source
  have hrest : indentedBody source ++ closingLines ≠ [] := List.append_ne_nil_of_left_ne_nil hbody _
  calc entrypointSource source
      = "\n".intercalate openingLines ++ "\n" ++ "\n".intercalate (indentedBody source) ++
          ("\n" ++ "\n".intercalate closingLines) := by
        rw [hopening, hclosing]
        rfl
    _ = "\n".intercalate openingLines ++ "\n" ++
          "\n".intercalate (indentedBody source ++ closingLines) := by
        rw [String.intercalate_append_of_ne_nil hbody closingLines_ne_nil]
        simp only [String.append_assoc]
    _ = "\n".intercalate (openingLines ++ (indentedBody source ++ closingLines)) :=
        (String.intercalate_append_of_ne_nil openingLines_ne_nil hrest).symm

/-- There is no line end in a line of a chunk. -/
theorem forall_ne_of_mem_lines {source line : String}
    (h : line ∈ openingLines ++ (indentedBody source ++ closingLines)) :
    ∀ c ∈ line.toList, c ≠ '\r' ∧ c ≠ '\n' := by
  have hopening : ∀ line ∈ openingLines, ∀ c ∈ line.toList, c ≠ '\r' ∧ c ≠ '\n' := by
    simp [openingLines]
  have hclosing : ∀ line ∈ closingLines, ∀ c ∈ line.toList, c ≠ '\r' ∧ c ≠ '\n' := by
    simp [closingLines]
  have hindent : ∀ c ∈ bodyIndent.toList, c ≠ '\r' ∧ c ≠ '\n' := by simp [bodyIndent]
  rw [List.mem_append, List.mem_append] at h
  rcases h with h | h | h
  · exact hopening line h
  · obtain ⟨l, hl, rfl⟩ := List.mem_map.1 h
    rw [String.toList_append]
    exact List.forall_mem_append.2 ⟨hindent, forall_ne_of_mem_splitLines hl⟩
  · exact hclosing line h

/-- The lines of a chunk are those that it is written in. -/
theorem splitLines_entrypointSource (source : String) :
    splitLines (entrypointSource source) =
      openingLines ++ (indentedBody source ++ closingLines) := by
  rw [entrypointSource_eq_intercalate]
  exact splitLines_intercalate_lf (List.append_ne_nil_of_left_ne_nil openingLines_ne_nil _)
    fun _ ↦ forall_ne_of_mem_lines

theorem indentedBody_inj {source source' : String} :
    indentedBody source = indentedBody source' ↔ splitLines source = splitLines source' :=
  List.map_inj_right fun _ _ ↦ (String.append_right_inj bodyIndent).1

/-- **A line of a macro is two lines further down in its chunk.** The lines of a chunk are two lines
in front, each line of the macro behind two spaces, and two lines behind. Two macros have the same
chunk exactly if they have the same lines. -/
theorem lines_entrypointSource (source : String) :
    splitLines (entrypointSource source) =
      ["yield = coroutine.yield", "local function entrypoint()"] ++
        (splitLines source).map ("  " ++ ·) ++ ["end", "return coroutine.create(entrypoint)"] ∧
    (∀ k : Fin (splitLines source).length,
      (splitLines (entrypointSource source))[k.val + 2]? = some ("  " ++ (splitLines source)[k])) ∧
    ∀ source', entrypointSource source = entrypointSource source' ↔
      splitLines source = splitLines source' := by
  have hlines := splitLines_entrypointSource source
  refine ⟨?_, fun k ↦ ?_, fun source' ↦ ⟨fun h ↦ ?_, fun h ↦ ?_⟩⟩
  · rw [hlines, ← List.append_assoc]
    rfl
  · have hbefore : openingLines.length ≤ k.val + 2 := Nat.le_add_left 2 k
    have hwithin : k.val < (indentedBody source).length := by
      rw [indentedBody, List.length_map]
      exact k.isLt
    rw [hlines, List.getElem?_append_right hbefore]
    show (indentedBody source ++ closingLines)[k.val]? = _
    rw [List.getElem?_append_left hwithin, indentedBody, List.getElem?_map,
      List.getElem?_eq_getElem k.isLt]
    rfl
  · have hsame := splitLines_entrypointSource source'
    rw [← h, hlines] at hsame
    exact indentedBody_inj.1 (List.append_cancel_right (List.append_cancel_left hsame))
  · rw [entrypointSource_eq_intercalate, indentedBody_inj.2 h, ← entrypointSource_eq_intercalate]

end MacroStream.Script
