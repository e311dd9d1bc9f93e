import Mathlib.Data.List.Forall2
import Mathlib.Logic.Relation
import MacroStream.Proofs.Script.Indentation

/-!
# The tokens of indented inputs

Indentation leaves gaps gaps: white space stays white space, and a comment ends with the same line
or bracket as before. It leaves every token as it is that takes in no line end; a string that does
becomes the one that the input spells with its line ends indented (`Placed.Indented`). So the tokens
of an indented input are known from those of the input (`Lexes.indented`), unless a string is torn,
and then the indented input cannot be read at all (`Lexes.not_indented`).
-/

namespace MacroStream.Script.Lexer

variable {foot : List UInt8}

/-! ### Pieces -/

theorem startsNumeral_indented_iff (hfoot : foot.head? = some 10) {b : UInt8} {bs : List UInt8} :
    StartsNumeral b (indented foot bs) ↔ StartsNumeral b bs := by
  have hsecond (d : UInt8) : (indented foot bs).head? = some d ∧ Num.isDigit d = true ↔
      bs.head? = some d ∧ Num.isDigit d = true := by
    refine and_congr_left fun hd ↦ head?_indented_eq_some_iff hfoot ?_
    exact not_isLineEnd_of_not_isSpace (not_isSpace_of_isDigit hd).1
  simp only [StartsNumeral, hsecond]

theorem StartsSymbol.indented (hfoot : foot.head? = some 10) {b : UInt8} {bs : List UInt8}
    (h : StartsSymbol b bs) : StartsSymbol b (Lexer.indented foot bs) where
  not_space := h.not_space
  not_letter := h.not_letter
  not_numeral := (startsNumeral_indented_iff hfoot).not.2 h.not_numeral
  not_quote := h.not_quote
  not_comment hb := (head?_indented_eq_some_iff hfoot rfl).not.2 (h.not_comment hb)
  not_long hb := by
    obtain ⟨hopen, hsign⟩ := h.not_long hb
    refine ⟨Option.eq_none_iff_forall_ne_some.2 fun x hx ↦ ?_,
      (head?_indented_eq_some_iff hfoot rfl).not.2 hsign⟩
    obtain ⟨r, hr, -⟩ := (openLong?_indented_iff hfoot).1 hx
    exact Option.some_ne_none _ (hr.symm.trans hopen)

/-- Gaps, one after the other. -/
def Gaps : List UInt8 → List UInt8 → Prop := Relation.ReflTransGen fun bs r ↦ Reads bs none r

theorem gaps_lineEnd (bs : List UInt8) : Gaps (10 :: 32 :: 32 :: bs) bs :=
  .head (.lineEnd rfl) (.head (.space rfl rfl) (.single (.space rfl rfl)))

/-- A gap is still white space and comments after indentation. -/
theorem Reads.gaps_indented (hfoot : foot.head? = some 10) {bs r : List UInt8}
    (h : Reads bs none r) : Gaps (Lexer.indented foot bs) (Lexer.indented foot r) := by
  generalize ht : (none : Option Token) = t at h
  cases h with
  | @lineEnd b bs hend =>
    rw [indented_of_lineEnd foot hend]
    rcases indentedEnd_eq b bs with heq | heq
    · rw [heq]
      exact gaps_lineEnd _
    · rw [heq]
      exact (gaps_lineEnd _).trans (gaps_lineEnd _)
  | space hend h =>
    rw [indented_of_not_lineEnd hend]
    exact .single (.space hend h)
  | @lineComment bs h =>
    have hline (b : UInt8) (hb : isLineEnd b = true) : (!isLineEnd b) = false := by rw [hb]; rfl
    rw [indented_of_not_lineEnd rfl, indented_of_not_lineEnd rfl, skipComment,
      ← dropWhile_indented hfoot hline]
    refine .single (.lineComment fun x hx ↦ Option.eq_none_iff_forall_ne_some.2 fun o ho ↦ ?_)
    obtain ⟨r, rfl, rfl⟩ := (indented_eq_cons_iff hfoot rfl).1 hx
    obtain ⟨r', hr', -⟩ := (openLong?_indented_iff hfoot).1 ho
    exact Option.some_ne_none _ (hr'.symm.trans (h r rfl))
  | @longComment level bs bs' body r hopen h =>
    obtain ⟨body', hbody, -⟩ := h.exists_indentedEnd
    have hopen' := (openLong?_indented_iff hfoot).2 ⟨bs', hopen, rfl⟩
    rw [indented_of_not_lineEnd rfl, indented_of_not_lineEnd rfl, indented_of_not_lineEnd rfl]
    exact .single (.longComment hopen' (hbody.indented hfoot))
  | _ => exact nomatch ht

/-- Whether a token is a string that takes in a line end: one that goes over the end of a line in
long brackets, or one with a line end behind a backslash. -/
def Placed.takesLineEnd : Placed → Bool
  | ⟨_, b :: bs⟩ =>
    if b = 34 || b = 39 then escapesLineEnd b bs
    else if b = 91 then (openLong? bs).any fun (level, r) ↦ crossesLine level r
    else false
  | ⟨_, []⟩ => false

/-- Whether a token is a string with a backslash in front of a line end that is indented twice. -/
def Placed.isTorn : Placed → Bool
  | ⟨_, b :: bs⟩ => (b = 34 || b = 39) && escapesLineEnds b bs
  | ⟨_, []⟩ => false

theorem Placed.takesLineEnd_of_quote {q : UInt8} (hq : q = 34 ∨ q = 39) (t : Token)
    (bs : List UInt8) : (⟨t, q :: bs⟩ : Placed).takesLineEnd = escapesLineEnd q bs := by
  rw [takesLineEnd, if_pos (by simpa using hq)]

theorem Placed.takesLineEnd_of_bracket (t : Token) (bs : List UInt8) :
    (⟨t, 91 :: bs⟩ : Placed).takesLineEnd =
      (openLong? bs).any fun (level, r) ↦ crossesLine level r := by
  rw [takesLineEnd, if_neg (by decide), if_pos rfl]

theorem Placed.takesLineEnd_of_ne {b : UInt8} (hquote : ¬(b = 34 ∨ b = 39)) (hbracket : b ≠ 91)
    (t : Token) (bs : List UInt8) : (⟨t, b :: bs⟩ : Placed).takesLineEnd = false := by
  rw [takesLineEnd, if_neg (by simpa using hquote), if_neg hbracket]

theorem Placed.isTorn_of_quote {q : UInt8} (hq : q = 34 ∨ q = 39) (t : Token)
    (bs : List UInt8) : (⟨t, q :: bs⟩ : Placed).isTorn = escapesLineEnds q bs := by
  have hquote : (q = 34 || q = 39) = true := by simpa using hq
  rw [isTorn, hquote, Bool.true_and]

theorem Placed.isTorn_of_not_quote {b : UInt8} (hquote : ¬(b = 34 ∨ b = 39)) (t : Token)
    (bs : List UInt8) : (⟨t, b :: bs⟩ : Placed).isTorn = false := by
  have hquote : (b = 34 || b = 39) = false := by simpa using hquote
  rw [isTorn, hquote, Bool.false_and]

/-- Only a string that takes in a line end can be torn. -/
theorem Placed.not_isTorn {p : Placed} (h : p.takesLineEnd = false) : p.isTorn = false := by
  obtain ⟨t, _ | ⟨b, bs⟩⟩ := p
  · rfl
  by_cases hq : b = 34 ∨ b = 39
  · rw [takesLineEnd_of_quote hq] at h
    rw [isTorn_of_quote hq]
    refine Bool.eq_false_iff.2 fun htorn ↦ ?_
    exact Bool.false_ne_true (h.symm.trans (escapesLineEnd_of_escapesLineEnds htorn))
  · exact isTorn_of_not_quote hq t bs

/-! ### Strings -/

/-- The string that an input spells with its line ends indented, next to the one that it spells. -/
theorem Spells.exists_indentedEnd {bs body r : List UInt8} (h : Spells lineFeed bs body r)
    (t : Token) : ∃ body', Spells indentedEnd bs body' r ∧
      Lengthens (⟨t, bs⟩ : Placed).takesLineEnd body body' := by
  cases h with
  | quoted hq h =>
    obtain ⟨body', hbody, hlengthens⟩ := h.exists_indentedEnd hq
    refine ⟨body', .quoted hq hbody, ?_⟩
    rw [Placed.takesLineEnd_of_quote hq]
    exact hlengthens
  | long hopen h =>
    obtain ⟨body', hbody, hlengthens⟩ := h.exists_indentedEnd
    refine ⟨body', .long hopen hbody, ?_⟩
    rw [Placed.takesLineEnd_of_bracket, hopen]
    exact hlengthens

/-- An indented input spells what the input spells with its line ends indented. -/
theorem Spells.indented (hfoot : foot.head? = some 10) {bs body r : List UInt8}
    (h : Spells indentedEnd bs body r) {t : Token} (htorn : (⟨t, bs⟩ : Placed).isTorn = false) :
    Spells lineFeed (Lexer.indented foot bs) body (Lexer.indented foot r) := by
  cases h with
  | quoted hq h =>
    rw [Placed.isTorn_of_quote hq] at htorn
    rw [indented_of_not_lineEnd (by rcases hq with rfl | rfl <;> rfl)]
    exact .quoted hq (h.indented hfoot hq htorn)
  | @long level bs bs' body r hopen h =>
    rw [indented_of_not_lineEnd rfl]
    exact .long ((openLong?_indented_iff hfoot).2 ⟨bs', hopen, rfl⟩) (h.indented hfoot)

/-- The token `t` is what the token `p` of a macro is in the chunk: the same one, or another string,
the one that the macro spells with its line ends indented. -/
inductive Placed.Indented : Placed → Token → Prop
  | same {p : Placed} (h : p.takesLineEnd = false) : Indented p p.token
  | string {input v v' r : List UInt8} (h : Placed.takesLineEnd ⟨.str ⟨v.toArray⟩, input⟩ = true)
      (hspells : Spells indentedEnd input v' r) (hne : v' ≠ v) :
      Indented ⟨.str ⟨v.toArray⟩, input⟩ (.str ⟨v'.toArray⟩)

theorem Placed.Indented.eq_iff {p : Placed} {t : Token} (h : p.Indented t) :
    t = p.token ↔ p.takesLineEnd = false := by
  cases h with
  | same h => exact iff_of_true rfl h
  | string h _ hne => exact iff_of_false (by simpa using hne) (by simp [h])

theorem Placed.indented_of_spells {input v v' r : List UInt8}
    (hspells : Spells indentedEnd input v' r)
    (h : Lengthens (Placed.takesLineEnd ⟨.str ⟨v.toArray⟩, input⟩) v v') :
    Placed.Indented ⟨.str ⟨v.toArray⟩, input⟩ (.str ⟨v'.toArray⟩) := by
  cases hline : Placed.takesLineEnd ⟨.str ⟨v.toArray⟩, input⟩ with
  | false =>
    rw [h.eq_of_false hline]
    exact .same hline
  | true =>
    have hlength := h.length_add_le
    rw [hline] at hlength
    refine .string hline hspells ?_
    rintro rfl
    exact Nat.not_succ_le_self _ hlength

/-! ### Tokens -/

/-- A token is the same after indentation, or a string with its line ends indented, unless it is
torn. -/
theorem Reads.token_indented (hfoot : foot.head? = some 10) {bs r : List UInt8} {t : Token}
    (h : Reads bs (some t) r) (htorn : (⟨t, bs⟩ : Placed).isTorn = false) :
    ∃ t', Reads (Lexer.indented foot bs) (some t') (Lexer.indented foot r) ∧
      (⟨t, bs⟩ : Placed).Indented t' := by
  generalize ht : some t = t? at h
  cases h with
  | @name b bs h =>
    cases ht
    have hend := not_isLineEnd_of_not_isSpace (not_isSpace_of_isLetter h)
    have hline (c : UInt8) (hc : isLineEnd c = true) : isNameByte c = false := by
      rcases isLineEnd_iff.1 hc with rfl | rfl <;> rfl
    refine ⟨_, ?_, .same (Placed.takesLineEnd_of_ne ?_ ?_ _ bs)⟩
    · rw [indented_of_not_lineEnd hend, ← dropWhile_indented hfoot hline,
        ← takeWhile_indented hfoot hline bs]
      exact .name h
    · rintro (rfl | rfl) <;> exact nomatch h
    · rintro rfl
      exact nomatch h
  | @numeral b bs n hb h =>
    cases ht
    have hne (c : UInt8) (hdigit : Num.isDigit c = false) (hpoint : c ≠ 46) : b ≠ c := by
      rintro rfl
      rcases hb with h | ⟨h, -⟩
      · exact Bool.false_ne_true (hdigit.symm.trans h)
      · exact hpoint h
    have hend : isLineEnd b = false := by
      simp [isLineEnd, hne 10 rfl (by decide), hne 13 rfl (by decide)]
    refine ⟨numeralToken n, ?_, .same (Placed.takesLineEnd_of_ne ?_ ?_ _ bs)⟩
    · have htext := numeralText_indented hfoot b bs
      have hrest : (numeralText b (Lexer.indented foot bs)).2 =
          Lexer.indented foot (numeralText b bs).2 := congrArg Prod.snd htext
      rw [indented_of_not_lineEnd hend, ← hrest]
      exact .numeral ((startsNumeral_indented_iff hfoot).2 hb) (by rw [htext]; exact h)
    · exact not_or.2 ⟨hne 34 rfl (by decide), hne 39 rfl (by decide)⟩
    · exact hne 91 rfl (by decide)
  | @string bs body r h =>
    cases ht
    obtain ⟨body', hbody, hlengthens⟩ := h.exists_indentedEnd (.str ⟨body.toArray⟩)
    exact ⟨.str ⟨body'.toArray⟩, .string (hbody.indented hfoot htorn),
      Placed.indented_of_spells hbody hlengthens⟩
  | @symbol b bs h =>
    cases ht
    have hend := not_isLineEnd_of_not_isSpace h.not_space
    refine ⟨_, ?_, .same ?_⟩
    · rw [indented_of_not_lineEnd hend]
      have hread := Reads.symbol (h.indented hfoot)
      rw [readSymbol_indented hfoot] at hread
      exact hread
    · by_cases hbracket : b = 91
      · subst hbracket
        rw [Placed.takesLineEnd_of_bracket, (h.not_long rfl).1]
        rfl
      · exact Placed.takesLineEnd_of_ne h.not_quote hbracket _ bs
  | _ => cases ht

theorem Reads.exists_quoted {q : UInt8} (hq : q = 34 ∨ q = 39) {bs r : List UInt8}
    {t : Option Token} (h : Reads (q :: bs) t r) : ∃ body, Quoted lineFeed q bs body r := by
  cases h with
  | string h =>
    cases h with
    | quoted _ h => exact ⟨_, h⟩
    | long => exact absurd hq (by decide)
  | symbol h => exact absurd hq h.not_quote
  | lineEnd h => rcases hq with rfl | rfl <;> exact nomatch h
  | space _ h => rcases hq with rfl | rfl <;> exact nomatch h
  | name h => rcases hq with rfl | rfl <;> exact nomatch h
  | numeral h => rcases hq with rfl | rfl <;> exact absurd h (by simp [StartsNumeral, Num.isDigit])
  | lineComment => exact absurd hq (by decide)
  | longComment => exact absurd hq (by decide)

theorem Reads.not_indented (hfoot : foot.head? = some 10) {bs r : List UInt8} {t : Token}
    (h : Reads bs (some t) r) (htorn : (⟨t, bs⟩ : Placed).isTorn = true) (t' : Option Token)
    (r' : List UInt8) :
    ¬Reads (Lexer.indented foot bs) t' r' := by
  rcases bs with _ | ⟨q, bs⟩
  · exact nomatch h
  by_cases hq : q = 34 ∨ q = 39
  · have hend : isLineEnd q = false := by rcases hq with rfl | rfl <;> rfl
    rw [Placed.isTorn_of_quote hq] at htorn
    obtain ⟨body, hbody⟩ := h.exists_quoted hq
    rw [indented_of_not_lineEnd hend]
    intro h'
    obtain ⟨body', hbody'⟩ := h'.exists_quoted hq
    exact hbody.not_indented hfoot hq htorn body' r' hbody'
  · rw [Placed.isTorn_of_not_quote hq] at htorn
    exact nomatch htorn

/-! ### Chunks -/

theorem Gaps.lexes {bs r : List UInt8} {ps : List Placed} (h : Gaps bs r) (hr : Lexes r ps) :
    Lexes bs ps := by
  induction h using Relation.ReflTransGen.head_induction_on with
  | refl => exact hr
  | head hgap _ ih => exact .gap hgap ih

theorem Gaps.exists_lexes_iff {bs r : List UInt8} (h : Gaps bs r) :
    (∃ ps, Lexes bs ps) ↔ ∃ ps, Lexes r ps := by
  induction h using Relation.ReflTransGen.head_induction_on with
  | refl => exact Iff.rfl
  | head hgap _ ih => exact hgap.exists_lexes_iff.trans ih

/-- The tokens of an indented input are those of the input, with the line ends of strings indented,
and those behind it. -/
theorem Lexes.indented (hfoot : foot.head? = some 10) {bs : List UInt8} {ps fs : List Placed}
    (h : Lexes bs ps) (htorn : ∀ p ∈ ps, p.isTorn = false) (hclosing : Lexes foot fs) :
    ∃ ps', Lexes (Lexer.indented foot bs) (ps' ++ fs) ∧
      List.Forall₂ (fun p p' ↦ p.Indented p'.token) ps ps' := by
  induction h with
  | nil => exact ⟨[], hclosing, .nil⟩
  | gap h _ ih =>
    obtain ⟨ps', hps', htokens⟩ := ih htorn
    exact ⟨ps', (h.gaps_indented hfoot).lexes hps', htokens⟩
  | token h _ ih =>
    obtain ⟨hp, hps⟩ := List.forall_mem_cons.1 htorn
    obtain ⟨ps', hps', htokens⟩ := ih hps
    obtain ⟨t', ht', htoken⟩ := h.token_indented hfoot hp
    exact ⟨_ :: ps', .token ht' hps', .cons htoken htokens⟩

theorem Lexes.not_indented (hfoot : foot.head? = some 10) {bs : List UInt8} {ps : List Placed}
    (h : Lexes bs ps) (htorn : ∃ p ∈ ps, p.isTorn = true) :
    ¬∃ ps', Lexes (Lexer.indented foot bs) ps' := by
  induction h with
  | nil => simp at htorn
  | gap h _ ih =>
    rw [(h.gaps_indented hfoot).exists_lexes_iff]
    exact ih htorn
  | @token bs r t ps h _ ih =>
    cases hp : (⟨t, bs⟩ : Placed).isTorn with
    | true =>
      rintro ⟨_, hps'⟩
      generalize hbs : Lexer.indented foot bs = bs' at hps'
      cases hps' with
      | nil => exact indented_ne_nil hfoot bs hbs
      | gap h' => exact h.not_indented hfoot hp _ _ (hbs ▸ h')
      | token h' => exact h.not_indented hfoot hp _ _ (hbs ▸ h')
    | false =>
      obtain ⟨t', ht', -⟩ := h.token_indented hfoot hp
      rw [ht'.exists_lexes_iff]
      obtain ⟨p, hmem, hp'⟩ := htorn
      rcases List.mem_cons.1 hmem with rfl | hmem
      · exact absurd (hp.symm.trans hp') Bool.false_ne_true
      · exact ih ⟨p, hmem, hp'⟩

end MacroStream.Script.Lexer
