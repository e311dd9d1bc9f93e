import MacroStream.Proofs.Script.IndentedTokens
import MacroStream.Proofs.Text.Bytes
import MacroStream.Proofs.Text.Lines
import MacroStream.Script.EntrypointSource

/-!
# The tokens of an entrypoint

The chunk of a macro has its lines indented, which is done for the eye: between two tokens white
space means nothing. Within a token it does. The tokens of a macro are those between
`entrypointOpening` and `entrypointClosing` in the tokens of its chunk exactly if no string of the
macro takes in a line end, in long brackets or behind a backslash. Line ends in comments, between
tokens, and behind `\z` do no harm, whichever way they are written.

A string that takes in a line end is another string in the chunk: there are two spaces behind each
of its line ends. All other tokens are still the same. Only where a backslash stands in front of a
line feed with a carriage return behind it can the chunk not be read at all.
-/

namespace MacroStream.Script

open Lexer

/-! ### Bytes -/

/-- Bytes are line ends only where the characters are. -/
theorem isLineEnd_of_mem_utf8EncodeChar {c : Char} (hr : c ≠ '\r') (hn : c ≠ '\n') {b : UInt8}
    (hb : b ∈ String.utf8EncodeChar c) : isLineEnd b = false := by
  by_contra hend
  rcases isLineEnd_iff.1 (by simpa using hend) with rfl | rfl
  · exact hn (Char.toNat_inj.1 (Text.toNat_eq_of_mem_utf8EncodeChar hb (by decide)))
  · exact hr (Char.toNat_inj.1 (Text.toNat_eq_of_mem_utf8EncodeChar hb (by decide)))

/-- Lines that have the same text in front, put together. -/
theorem intercalate_map_append {α : Type} (sep front : List α) {ls : List (List α)} (h : ls ≠ []) :
    sep.intercalate (ls.map (front ++ ·)) = front ++ (sep ++ front).intercalate ls := by
  induction ls with
  | nil => exact absurd rfl h
  | cons l ls ih =>
    rcases ls with _ | ⟨l', ls⟩
    · simp [List.intercalate]
    · rw [List.map_cons, List.map_cons, List.intercalate_cons_cons, ← List.map_cons,
        ih (List.cons_ne_nil _ _), List.intercalate_cons_cons]
      simp only [List.append_assoc]

/-- The lines of a text, each but the first behind a line feed and two spaces. -/
def indentedLines (cs : List Char) : List Char :=
  ['\n', ' ', ' '].intercalate (Text.linesOf cs)

theorem indentedLines_of_linesOf_eq {cs ds : List Char}
    (h : Text.linesOf cs = [] :: Text.linesOf ds) :
    indentedLines cs = '\n' :: ' ' :: ' ' :: indentedLines ds := by
  rw [indentedLines, h, indentedLines]
  cases hds : Text.linesOf ds with
  | nil => exact absurd hds (Text.linesOf_ne_nil ds)
  | cons l ls => rw [List.intercalate_cons_cons]; rfl

theorem indentedLines_cons {c : Char} (hr : c ≠ '\r') (hn : c ≠ '\n') (cs : List Char) :
    indentedLines (c :: cs) = c :: indentedLines cs := by
  rw [indentedLines, Text.linesOf_cons hr hn, indentedLines]
  cases hcs : Text.linesOf cs with
  | nil => exact absurd hcs (Text.linesOf_ne_nil cs)
  | cons l ls =>
    cases ls with
    | nil => simp [Text.consFirst, List.intercalate]
    | cons l' ls => rw [Text.consFirst, List.intercalate_cons_cons, List.intercalate_cons_cons]; rfl

/-- Indenting the lines of a text is indenting its bytes. -/
theorem flatMap_indentedLines (foot : List UInt8) (cs : List Char) :
    (indentedLines cs).flatMap String.utf8EncodeChar ++ foot =
      indented foot (cs.flatMap String.utf8EncodeChar) := by
  fun_induction Text.linesOf cs with
  | case1 => rfl
  | case2 cs ih =>
    rw [indentedLines_of_linesOf_eq (Text.linesOf_crlf cs)]
    change 10 :: 32 :: 32 :: ((indentedLines cs).flatMap String.utf8EncodeChar ++ foot) =
      indented foot (13 :: 10 :: cs.flatMap String.utf8EncodeChar)
    rw [ih, indented_crlf]
  | case3 c cs hcs hc ih =>
    rcases hc with rfl | rfl
    · have hhead : cs.head? ≠ some '\n' := by
        intro hhead
        obtain ⟨ds, rfl⟩ := List.head?_eq_some_iff.1 hhead
        exact hcs ds rfl rfl
      rw [indentedLines_of_linesOf_eq (Text.linesOf_cr hhead)]
      change 10 :: 32 :: 32 :: ((indentedLines cs).flatMap String.utf8EncodeChar ++ foot) =
        indented foot (13 :: cs.flatMap String.utf8EncodeChar)
      rw [ih, indented_cr (Text.head?_flatMap_ne_lf hhead)]
    · rw [indentedLines_of_linesOf_eq (Text.linesOf_lf cs)]
      change 10 :: 32 :: 32 :: ((indentedLines cs).flatMap String.utf8EncodeChar ++ foot) =
        indented foot (10 :: cs.flatMap String.utf8EncodeChar)
      rw [ih, indented_lf]
  | case4 c cs hcs hc ih =>
    rw [not_or] at hc
    rw [indentedLines_cons hc.1 hc.2, List.flatMap_cons, List.flatMap_cons, List.append_assoc, ih,
      indented_append]
    exact fun b ↦ isLineEnd_of_mem_utf8EncodeChar hc.1 hc.2

/-- What stands in front of a macro. -/
def entrypointHead : String := "yield = coroutine.yield\nlocal function entrypoint()\n"

/-- What stands behind a macro. -/
def entrypointFoot : String := "\nend\nreturn coroutine.create(entrypoint)"

/-- The lines of a macro as they are in its chunk. -/
def entrypointBody (source : String) : String :=
  "\n".intercalate ((Text.splitLines source).map (bodyIndent ++ ·))

theorem entrypointSource_eq (source : String) :
    entrypointSource source = entrypointHead ++ entrypointBody source ++ entrypointFoot :=
  rfl

theorem toList_entrypointBody (source : String) :
    (entrypointBody source).toList = ' ' :: ' ' :: indentedLines source.toList := by
  have hindent : bodyIndent.toList = [' ', ' '] := by simp [bodyIndent]
  have hlines : ((Text.splitLines source).map (bodyIndent ++ ·)).map String.toList =
      (Text.linesOf source.toList).map ([' ', ' '] ++ ·) := by
    simp [Text.splitLines, hindent]
  rw [entrypointBody, String.toList_intercalate, hlines,
    intercalate_map_append _ _ (Text.linesOf_ne_nil _)]
  simp [indentedLines]

theorem toList_entrypointSource (source : String) :
    (entrypointSource source).toUTF8.toList =
      entrypointHead.toUTF8.toList ++
        32 :: 32 :: indented entrypointFoot.toUTF8.toList source.toUTF8.toList := by
  simp only [Text.toList_toUTF8, entrypointSource_eq, String.toList_append, toList_entrypointBody,
    List.flatMap_append, List.flatMap_cons, ← flatMap_indentedLines, List.append_assoc]
  rfl

/-! ### Tokens -/

/-- The tokens in front of those of a macro. -/
def entrypointOpening : List Token :=
  [.name "yield".toUTF8, .symbol (.char 61), .name "coroutine".toUTF8, .symbol (.char 46),
    .name "yield".toUTF8, .symbol .kLocal, .symbol .kFunction, .name "entrypoint".toUTF8,
    .symbol (.char 40), .symbol (.char 41)]

/-- The tokens behind those of a macro. -/
def entrypointClosing : List Token :=
  [.symbol .kEnd, .symbol .kReturn, .name "coroutine".toUTF8, .symbol (.char 46),
    .name "create".toUTF8, .symbol (.char 40), .name "entrypoint".toUTF8, .symbol (.char 41)]

theorem lexFrom_entrypointHead (n : Nat) (bs : List UInt8) :
    (lexFrom (n + 17) 1 (entrypointHead.toUTF8.toList ++ 32 :: bs)).1.map Lexeme.token =
        entrypointOpening ++ (lexFrom n 3 bs).1.map Lexeme.token ∧
      (lexFrom (n + 17) 1 (entrypointHead.toUTF8.toList ++ 32 :: bs)).2 = (lexFrom n 3 bs).2 := by
  rw [Text.toList_toUTF8]
  simp only [entrypointHead, entrypointOpening, Text.toUTF8_eq_flatMap, String.reduceToList]
  exact ⟨rfl, rfl⟩

theorem lexFrom_entrypointFoot :
    (lexFrom 40 1 entrypointFoot.toUTF8.toList).1.map Lexeme.token = entrypointClosing ++ [.eof] ∧
      (lexFrom 40 1 entrypointFoot.toUTF8.toList).2 = none := by
  rw [Text.toList_toUTF8]
  simp only [entrypointFoot, entrypointClosing, Text.toUTF8_eq_flatMap, String.reduceToList]
  exact ⟨rfl, rfl⟩

theorem lexes_entrypointHead {bs : List UInt8} {ps : List Placed} (h : Lexes bs ps) :
    ∃ ps', Lexes (entrypointHead.toUTF8.toList ++ 32 :: bs) ps' ∧
      ps'.map Placed.token = entrypointOpening ++ ps.map Placed.token := by
  obtain ⟨ls, hls, htokens⟩ := h.lexFrom_eq (Nat.lt_succ_self _) 3
  have hhead := lexFrom_entrypointHead bs.length.succ bs
  rw [hls, htokens, ← List.append_assoc] at hhead
  obtain ⟨ps', hps', htokens'⟩ := lexes_of_lexFrom (Prod.ext rfl hhead.2)
  exact ⟨ps', hps', List.append_cancel_right (htokens'.symm.trans hhead.1)⟩

theorem exists_lexes_of_entrypointHead {bs : List UInt8} {ps : List Placed}
    (h : Lexes (entrypointHead.toUTF8.toList ++ 32 :: bs) ps) : ∃ ps', Lexes bs ps' := by
  set input := entrypointHead.toUTF8.toList ++ 32 :: bs with hinput
  have hn : input.length < input.length + 17 := Nat.lt_add_of_pos_right (by decide)
  obtain ⟨ls, hls, -⟩ := h.lexFrom_eq hn 1
  have hhead := (lexFrom_entrypointHead input.length bs).2
  rw [hls] at hhead
  obtain ⟨ps', hps', -⟩ := lexes_of_lexFrom (Prod.ext rfl hhead.symm)
  exact ⟨ps', hps'⟩

theorem head?_entrypointFoot : entrypointFoot.toUTF8.toList.head? = some 10 := by
  rw [Text.toList_toUTF8]
  simp only [entrypointFoot, String.reduceToList]
  rfl

variable {source : String}

/-- The chunk of a macro has the tokens of the indented macro behind those in front of it. -/
theorem tokens?_of_lexes_indented {ps : List Placed}
    (h : Lexes (indented entrypointFoot.toUTF8.toList source.toUTF8.toList) ps) :
    tokens? (entrypointSource source).toUTF8 = some (entrypointOpening ++ ps.map Placed.token) := by
  have hspace : Reads (32 :: indented entrypointFoot.toUTF8.toList source.toUTF8.toList) none _ :=
    .space rfl rfl
  obtain ⟨ps', hps', htokens⟩ := lexes_entrypointHead (.gap hspace h)
  rw [tokens?_eq_some_iff, toList_entrypointSource]
  exact ⟨ps', hps', htokens⟩

theorem exists_lexes_indented {ts : List Token}
    (h : tokens? (entrypointSource source).toUTF8 = some ts) :
    ∃ ps, Lexes (indented entrypointFoot.toUTF8.toList source.toUTF8.toList) ps := by
  rw [tokens?_eq_some_iff, toList_entrypointSource] at h
  obtain ⟨ps, hps, -⟩ := h
  obtain ⟨ps', hps'⟩ := exists_lexes_of_entrypointHead hps
  have hspace : Reads (32 :: indented entrypointFoot.toUTF8.toList source.toUTF8.toList) none _ :=
    .space rfl rfl
  exact hspace.exists_lexes_iff.1 ⟨ps', hps'⟩

theorem exists_lexes_entrypointFoot : ∃ fs, Lexes entrypointFoot.toUTF8.toList fs ∧
    fs.map Placed.token = entrypointClosing := by
  obtain ⟨htokens, hnone⟩ := lexFrom_entrypointFoot
  obtain ⟨fs, hfs, htokens'⟩ := lexes_of_lexFrom (Prod.ext rfl hnone)
  exact ⟨fs, hfs, List.append_cancel_right (htokens'.symm.trans htokens)⟩

theorem eq_map_token_iff {ps : List Placed} {ts : List Token}
    (h : List.Forall₂ Placed.Indented ps ts) :
    ts = ps.map Placed.token ↔ ∀ p ∈ ps, p.takesLineEnd = false := by
  induction h with
  | nil => simp
  | cons hp _ ih => simp only [List.map_cons, List.cons.injEq, hp.eq_iff, ih, List.forall_mem_cons]

/-- What becomes of the tokens `ps` of a macro in its chunk. -/
structure KeptIn (chunk : ByteArray) (ps : List Placed) : Prop where
  /-- All of them are kept exactly if none of them takes in a line end. -/
  same_iff : tokens? chunk =
      some (entrypointOpening ++ ps.map Placed.token ++ entrypointClosing) ↔
    ∀ p ∈ ps, p.takesLineEnd = false
  /-- Unless one is torn, only strings that take in a line end change, and only by indentation. -/
  indented (h : ∀ p ∈ ps, p.isTorn = false) : ∃ ts, List.Forall₂ Placed.Indented ps ts ∧
    tokens? chunk = some (entrypointOpening ++ ts ++ entrypointClosing)
  /-- If one is torn, the chunk cannot be read. -/
  lost (h : ∃ p ∈ ps, p.isTorn = true) : tokens? chunk = none

theorem indented_of_lexes {ps : List Placed} (hps : Lexes source.toUTF8.toList ps)
    (htorn : ∀ p ∈ ps, p.isTorn = false) : ∃ ts, List.Forall₂ Placed.Indented ps ts ∧
      tokens? (entrypointSource source).toUTF8 =
        some (entrypointOpening ++ ts ++ entrypointClosing) := by
  obtain ⟨fs, hfs, hclosing⟩ := exists_lexes_entrypointFoot
  obtain ⟨ps', hps', htokens⟩ := hps.indented head?_entrypointFoot htorn hfs
  refine ⟨ps'.map Placed.token, List.forall₂_map_right_iff.2 htokens, ?_⟩
  rw [tokens?_of_lexes_indented hps', List.map_append, hclosing, List.append_assoc]

theorem lost_of_lexes {ps : List Placed} (hps : Lexes source.toUTF8.toList ps)
    (htorn : ∃ p ∈ ps, p.isTorn = true) : tokens? (entrypointSource source).toUTF8 = none := by
  refine Option.eq_none_iff_forall_ne_some.2 fun ts hts ↦ ?_
  exact hps.not_indented head?_entrypointFoot htorn (exists_lexes_indented hts)

/-- **The tokens of a macro in its chunk.** -/
theorem tokens?_entrypointSource {ts : List Token} (h : tokens? source.toUTF8 = some ts) :
    ∃ ps, Lexes source.toUTF8.toList ps ∧ ps.map Placed.token = ts ∧
      KeptIn (entrypointSource source).toUTF8 ps := by
  obtain ⟨ps, hps, htokens⟩ := tokens?_eq_some_iff.1 h
  refine ⟨ps, hps, htokens, ⟨⟨fun hsame ↦ ?_, fun hline ↦ ?_⟩, indented_of_lexes hps,
    lost_of_lexes hps⟩⟩
  · have htorn (p : Placed) (hp : p ∈ ps) : p.isTorn = false := by
      refine Bool.eq_false_iff.2 fun hne ↦ ?_
      exact Option.some_ne_none _ (hsame.symm.trans (lost_of_lexes hps ⟨p, hp, hne⟩))
    obtain ⟨ts', htokens, hchunk⟩ := indented_of_lexes hps htorn
    have hsame' := Option.some.inj (hchunk.symm.trans hsame)
    exact (eq_map_token_iff htokens).1 (List.append_cancel_left (List.append_cancel_right hsame'))
  · obtain ⟨ts', htokens, hchunk⟩ :=
      indented_of_lexes hps fun p hp ↦ Placed.not_isTorn (hline p hp)
    rw [hchunk, (eq_map_token_iff htokens).2 hline]

/-- A macro with a comment and a line end behind its string. -/
theorem tokens?_entrypointSource_comment :
    tokens? "yield('/echo a') -- done\n".toUTF8 =
        some [.name "yield".toUTF8, .symbol (.char 40), .str "/echo a".toUTF8,
          .symbol (.char 41)] ∧
      ∃ ps, Lexes "yield('/echo a') -- done\n".toUTF8.toList ps ∧
        ps.map Placed.token = [.name "yield".toUTF8, .symbol (.char 40), .str "/echo a".toUTF8,
          .symbol (.char 41)] ∧
        KeptIn (entrypointSource "yield('/echo a') -- done\n").toUTF8 ps := by
  have h : tokens? "yield('/echo a') -- done\n".toUTF8 =
      some [.name "yield".toUTF8, .symbol (.char 40), .str "/echo a".toUTF8,
        .symbol (.char 41)] := by
    apply tokens?_of_lexFrom 30 1
    all_goals
      rw [Text.toList_toUTF8]
      simp only [Text.toUTF8_eq_flatMap, String.reduceToList]
      rfl
  exact ⟨h, tokens?_entrypointSource h⟩

/-- Not every macro has its tokens in its chunk: this one has a string of two lines. -/
theorem not_forall_tokens?_entrypointSource :
    ¬∀ (source : String) (ts : List Token), tokens? source.toUTF8 = some ts →
      tokens? (entrypointSource source).toUTF8 =
        some (entrypointOpening ++ ts ++ entrypointClosing) := by
  intro h
  have hmacro : tokens? "yield([[/echo a\nb]])".toUTF8 =
      some [.name "yield".toUTF8, .symbol (.char 40), .str "/echo a\nb".toUTF8,
        .symbol (.char 41)] := by
    apply tokens?_of_lexFrom 30 1
    all_goals
      rw [Text.toList_toUTF8]
      simp only [Text.toUTF8_eq_flatMap, String.reduceToList]
      rfl
  have hchunk : tokens? (entrypointSource "yield([[/echo a\nb]])").toUTF8 =
      some (entrypointOpening ++ [.name "yield".toUTF8, .symbol (.char 40),
        .str "/echo a\n  b".toUTF8, .symbol (.char 41)] ++ entrypointClosing) := by
    apply tokens?_of_lexFrom 99 1
    all_goals
      rw [toList_entrypointSource, Text.toList_toUTF8, Text.toList_toUTF8, Text.toList_toUTF8]
      simp only [entrypointHead, entrypointFoot, entrypointOpening, entrypointClosing,
        Text.toUTF8_eq_flatMap, String.reduceToList]
      rfl
  have hsame := Option.some.inj (hchunk.symm.trans (h _ _ hmacro))
  have hstring := List.append_cancel_left (List.append_cancel_right hsame)
  simp only [Text.toUTF8_eq_flatMap, String.reduceToList, List.cons.injEq,
    Token.str.injEq] at hstring
  exact absurd (congrArg ByteArray.size hstring.2.2.1) (by decide)

end MacroStream.Script
