import MacroStream.Proofs.Script.TokenReading

/-!
# Indented inputs

`indented foot bs` is the input `bs` with every line end written as a line feed, with two spaces
behind every line end, and with `foot` at its end. As long as `foot` starts with a line feed,
whatever the lexer reads within a line is the same in both inputs, because a line feed stops it as
much as any line end and as the end of the input.

Strings are what goes over the ends of lines. In long brackets the spaces become part of the string;
behind a backslash the line end is part of the string and the spaces are added to it; behind `\z`
all of it is passed over. So the string of the indented input is the one that the input spells when
each of its line ends adds the spaces as well (`Quoted.indented`, `Long.indented`). The one string
that is lost has a backslash in front of a line feed with a carriage return behind it: that pair is
one line end for the lexer and two lines for the indentation, so the backslash is left in front of
the first line feed only (`Quoted.not_indented`).
-/

namespace MacroStream.Script.Lexer

/-- An input with two spaces behind every line end, and with `foot` at its end. -/
def indented (foot : List UInt8) : List UInt8 → List UInt8
  | [] => foot
  | 13 :: 10 :: bs => 10 :: 32 :: 32 :: indented foot bs
  | b :: bs => if isLineEnd b then 10 :: 32 :: 32 :: indented foot bs else b :: indented foot bs

variable {foot : List UInt8}

theorem indented_of_not_lineEnd {b : UInt8} (hend : isLineEnd b = false) (bs : List UInt8) :
    indented foot (b :: bs) = b :: indented foot bs := by
  rw [indented]
  · rw [hend, if_neg Bool.false_ne_true]
  · rintro r rfl rfl
    exact nomatch hend

theorem indented_lf (bs : List UInt8) :
    indented foot (10 :: bs) = 10 :: 32 :: 32 :: indented foot bs := by
  rw [indented]
  · rfl
  · exact fun _ h ↦ nomatch h

theorem indented_crlf (bs : List UInt8) :
    indented foot (13 :: 10 :: bs) = 10 :: 32 :: 32 :: indented foot bs := by
  rw [indented]

theorem indented_cr {bs : List UInt8} (h : bs.head? ≠ some 10) :
    indented foot (13 :: bs) = 10 :: 32 :: 32 :: indented foot bs := by
  rw [indented]
  · rfl
  · rintro r - rfl
    exact h rfl

theorem afterLineEnd_of_head?_ne {b : UInt8} {bs : List UInt8}
    (h : ∀ c, bs.head? = some c → isLineEnd c = true → c = b) : afterLineEnd b bs = bs := by
  rcases bs with _ | ⟨c, bs⟩
  · rfl
  · rw [afterLineEnd, if_neg]
    simpa using h c rfl

/-- A line end of the lexer that is two for the indentation: a line feed with a carriage return
behind it, but for one that goes with another line feed. -/
def isTwoLineEnds (b : UInt8) (bs : List UInt8) : Bool :=
  b = 10 && bs.head? = some 13 && bs.tail.head? ≠ some 10

/-- What a line end is in an indented input. -/
def indentedEnd : LineEndBytes := fun b bs ↦
  if isTwoLineEnds b bs then [10, 32, 32, 10, 32, 32] else [10, 32, 32]

theorem indentedEnd_of_one {b : UInt8} {bs : List UInt8} (h : isTwoLineEnds b bs = false) :
    indentedEnd b bs = [10, 32, 32] := by
  rw [indentedEnd, h, if_neg Bool.false_ne_true]

theorem indentedEnd_of_two {b : UInt8} {bs : List UInt8} (h : isTwoLineEnds b bs = true) :
    indentedEnd b bs = [10, 32, 32, 10, 32, 32] := by
  rw [indentedEnd, if_pos h]

theorem indentedEnd_eq (b : UInt8) (bs : List UInt8) :
    indentedEnd b bs = [10, 32, 32] ∨ indentedEnd b bs = [10, 32, 32, 10, 32, 32] := by
  cases h : isTwoLineEnds b bs with
  | false => exact .inl (indentedEnd_of_one h)
  | true => exact .inr (indentedEnd_of_two h)

theorem indented_of_lineEnd (foot : List UInt8) {b : UInt8} (hend : isLineEnd b = true)
    (bs : List UInt8) :
    indented foot (b :: bs) = indentedEnd b bs ++ indented foot (afterLineEnd b bs) := by
  rcases isLineEnd_iff.1 hend with rfl | rfl
  · rw [indented_lf]
    by_cases hcr : bs.head? = some 13
    · obtain ⟨r, rfl⟩ := List.head?_eq_some_iff.1 hcr
      by_cases hlf : r.head? = some 10
      · -- The carriage return goes with the line feed behind it.
        obtain ⟨r, rfl⟩ := List.head?_eq_some_iff.1 hlf
        rw [indented_crlf, ← indented_lf]
        rfl
      · rw [indented_cr hlf, indentedEnd_of_two (by simp [isTwoLineEnds, hlf])]
        rfl
    · rw [indentedEnd_of_one (by simp [isTwoLineEnds, hcr]),
        afterLineEnd_of_head?_ne fun c hc hend ↦ ?_]
      · rfl
      · exact (isLineEnd_iff.1 hend).resolve_right fun h ↦ hcr (h ▸ hc)
  · rw [indentedEnd_of_one (by simp [isTwoLineEnds])]
    by_cases hlf : bs.head? = some 10
    · obtain ⟨r, rfl⟩ := List.head?_eq_some_iff.1 hlf
      exact indented_crlf r
    · rw [indented_cr hlf, afterLineEnd_of_head?_ne fun c hc hend ↦ ?_]
      · rfl
      · exact (isLineEnd_iff.1 hend).resolve_left fun h ↦ hlf (h ▸ hc)

theorem exists_indented_of_lineEnd (foot : List UInt8) {b : UInt8} (hend : isLineEnd b = true)
    (bs : List UInt8) :
    ∃ x, indented foot (b :: bs) = 10 :: x := by
  rw [indented_of_lineEnd foot hend]
  rcases indentedEnd_eq b bs with h | h
  · exact ⟨_, by rw [h]; rfl⟩
  · exact ⟨_, by rw [h]; rfl⟩

theorem indented_append {bs : List UInt8} (h : ∀ b ∈ bs, isLineEnd b = false) (r : List UInt8) :
    indented foot (bs ++ r) = bs ++ indented foot r := by
  induction bs with
  | nil => rfl
  | cons b bs ih =>
    obtain ⟨hb, hbs⟩ := List.forall_mem_cons.1 h
    rw [List.cons_append, indented_of_not_lineEnd hb, ih hbs, List.cons_append]

theorem not_inNumeral_of_isLineEnd {lower upper b : UInt8} (hlower : isLineEnd lower = false)
    (hupper : isLineEnd upper = false) (hend : isLineEnd b = true) :
    ¬InNumeral lower upper b := by
  rintro (rfl | rfl | h | h)
  · exact Bool.false_ne_true (hlower.symm.trans hend)
  · exact Bool.false_ne_true (hupper.symm.trans hend)
  · rcases isLineEnd_iff.1 hend with rfl | rfl <;> exact nomatch h
  · rcases isLineEnd_iff.1 hend with rfl | rfl <;> exact nomatch h

section Scanners

variable (hfoot : foot.head? = some 10)
include hfoot

/-- Indentation leaves what stands before the next line end as it is. -/
theorem indented_eq_cons_iff {c : UInt8} (hc : isLineEnd c = false) {bs x : List UInt8} :
    indented foot bs = c :: x ↔ ∃ r, bs = c :: r ∧ x = indented foot r := by
  constructor
  · intro h
    rcases bs with _ | ⟨b, bs⟩
    · have hhead : foot.head? = some c := congrArg List.head? h
      cases hfoot.symm.trans hhead
      exact nomatch hc
    cases hend : isLineEnd b with
    | true =>
      obtain ⟨y, hy⟩ := exists_indented_of_lineEnd foot hend bs
      cases hy.symm.trans h
      exact nomatch hc
    | false =>
      obtain ⟨rfl, rfl⟩ := List.cons.inj ((indented_of_not_lineEnd hend bs).symm.trans h)
      exact ⟨bs, rfl, rfl⟩
  · rintro ⟨r, rfl, rfl⟩
    exact indented_of_not_lineEnd hc r

theorem head?_indented_eq_some_iff {c : UInt8} (hc : isLineEnd c = false) {bs : List UInt8} :
    (indented foot bs).head? = some c ↔ bs.head? = some c := by
  simp only [List.head?_eq_some_iff, indented_eq_cons_iff hfoot hc]
  constructor
  · rintro ⟨_, r, rfl, -⟩
    exact ⟨r, rfl⟩
  · rintro ⟨r, rfl⟩
    exact ⟨_, r, rfl, rfl⟩

theorem indented_ne_nil (bs : List UInt8) : indented foot bs ≠ [] := by
  intro h
  rcases bs with _ | ⟨b, bs⟩
  · rw [indented] at h
    simp [h] at hfoot
  cases hend : isLineEnd b with
  | true =>
    obtain ⟨x, hx⟩ := exists_indented_of_lineEnd foot hend bs
    exact List.cons_ne_nil 10 x (hx.symm.trans h)
  | false => exact List.cons_ne_nil b _ ((indented_of_not_lineEnd hend bs).symm.trans h)

theorem takeWhile_indented {p : UInt8 → Bool} (hp : ∀ b, isLineEnd b = true → p b = false)
    (bs : List UInt8) : (indented foot bs).takeWhile p = bs.takeWhile p := by
  have hlf : p 10 = false := hp 10 rfl
  induction bs with
  | nil =>
    obtain ⟨x, hx⟩ := List.head?_eq_some_iff.1 hfoot
    rw [indented, hx, List.takeWhile_cons_of_neg (by simp [hlf])]
    rfl
  | cons b bs ih =>
    cases hend : isLineEnd b with
    | true =>
      obtain ⟨x, hx⟩ := exists_indented_of_lineEnd foot hend bs
      rw [hx, List.takeWhile_cons_of_neg (by simp [hlf]),
        List.takeWhile_cons_of_neg (by simp [hp b hend])]
    | false =>
      rw [indented_of_not_lineEnd hend, List.takeWhile_cons, List.takeWhile_cons, ih]

theorem dropWhile_indented {p : UInt8 → Bool} (hp : ∀ b, isLineEnd b = true → p b = false)
    (bs : List UInt8) : (indented foot bs).dropWhile p = indented foot (bs.dropWhile p) := by
  have hlf : p 10 = false := hp 10 rfl
  induction bs with
  | nil =>
    obtain ⟨x, hx⟩ := List.head?_eq_some_iff.1 hfoot
    rw [List.dropWhile_nil, indented, hx, List.dropWhile_cons_of_neg (by simp [hlf])]
  | cons b bs ih =>
    cases hend : isLineEnd b with
    | true =>
      obtain ⟨x, hx⟩ := exists_indented_of_lineEnd foot hend bs
      rw [List.dropWhile_cons_of_neg (by simp [hp b hend]), hx,
        List.dropWhile_cons_of_neg (by simp [hlf])]
    | false =>
      rw [indented_of_not_lineEnd hend, List.dropWhile_cons, List.dropWhile_cons, ih]
      split
      · rfl
      · rw [indented_of_not_lineEnd hend]

theorem takeWhile_take_indented {p : UInt8 → Bool} (hp : ∀ b, isLineEnd b = true → p b = false)
    (n : Nat) (bs : List UInt8) :
    ((indented foot bs).take n).takeWhile p = (bs.take n).takeWhile p := by
  have hlf : p 10 = false := hp 10 rfl
  induction n generalizing bs with
  | zero => rfl
  | succ n ih =>
    rcases bs with _ | ⟨b, bs⟩
    · obtain ⟨x, hx⟩ := List.head?_eq_some_iff.1 hfoot
      rw [indented, hx, List.take_succ_cons, List.takeWhile_cons_of_neg (by simp [hlf])]
      rfl
    rw [List.take_succ_cons]
    cases hend : isLineEnd b with
    | true =>
      obtain ⟨x, hx⟩ := exists_indented_of_lineEnd foot hend bs
      rw [hx, List.take_succ_cons, List.takeWhile_cons_of_neg (by simp [hlf]),
        List.takeWhile_cons_of_neg (by simp [hp b hend])]
    | false =>
      rw [indented_of_not_lineEnd hend, List.take_succ_cons, List.takeWhile_cons,
        List.takeWhile_cons, ih]

/-- The signs of a long bracket, and the bracket `c` behind them. -/
theorem signs_indented_iff {c : UInt8} (hc : isLineEnd c = false) {bs x : List UInt8}
    {level : Nat} :
    ((indented foot bs).takeWhile (· = 61)).length = level ∧
        (indented foot bs).dropWhile (· = 61) = c :: x ↔
      ∃ r, ((bs.takeWhile (· = 61)).length = level ∧ bs.dropWhile (· = 61) = c :: r) ∧
        x = indented foot r := by
  have hsign (b : UInt8) (hend : isLineEnd b = true) : decide (b = 61) = false := by
    rcases isLineEnd_iff.1 hend with rfl | rfl <;> rfl
  rw [takeWhile_indented hfoot hsign, dropWhile_indented hfoot hsign,
    indented_eq_cons_iff hfoot hc]
  constructor
  · rintro ⟨hlevel, r, hr, hx⟩
    exact ⟨r, ⟨hlevel, hr⟩, hx⟩
  · rintro ⟨r, ⟨hlevel, hr⟩, hx⟩
    exact ⟨hlevel, r, hr, hx⟩

theorem openLong?_indented_iff {bs x : List UInt8} {level : Nat} :
    openLong? (indented foot bs) = some (level, x) ↔
      ∃ r, openLong? bs = some (level, r) ∧ x = indented foot r := by
  simp only [openLong?_eq_some_iff, signs_indented_iff hfoot (show isLineEnd 91 = false from rfl)]

theorem closeLong?_indented_iff {bs x : List UInt8} {level : Nat} :
    closeLong? level (indented foot bs) = some x ↔
      ∃ r, closeLong? level bs = some r ∧ x = indented foot r := by
  simp only [closeLong?_eq_some_iff, signs_indented_iff hfoot (show isLineEnd 93 = false from rfl)]

theorem numeralBody_indented {lower upper : UInt8}
    (hin : ∀ b, isLineEnd b = true → ¬InNumeral lower upper b) (acc bs : List UInt8) :
    numeralBody lower upper acc (indented foot bs) =
      ((numeralBody lower upper acc bs).1, indented foot (numeralBody lower upper acc bs).2) := by
  induction hn : bs.length using Nat.strong_induction_on generalizing acc bs with
  | _ n ih =>
  rcases bs with _ | ⟨b, bs⟩
  · obtain ⟨x, hx⟩ := List.head?_eq_some_iff.1 hfoot
    rw [indented, hx, numeralBody_of_not (hin 10 rfl), numeralBody, ← hx]
    rfl
  cases hend : isLineEnd b with
  | true =>
    obtain ⟨x, hx⟩ := exists_indented_of_lineEnd foot hend bs
    rw [numeralBody_of_not (hin b hend), hx, numeralBody_of_not (hin 10 rfl)]
  | false =>
    rw [indented_of_not_lineEnd hend]
    by_cases hb : InNumeral lower upper b
    · by_cases hsign : SignFollows lower upper b bs
      · obtain ⟨hexp, s, hhead, hs⟩ := hsign
        obtain ⟨r, rfl⟩ := List.head?_eq_some_iff.1 hhead
        have hend' : isLineEnd s = false := by rcases hs with rfl | rfl <;> rfl
        rw [indented_of_not_lineEnd hend', numeralBody_sign hexp hs, numeralBody_sign hexp hs]
        exact ih r.length (by simp at hn; omega) _ r rfl
      · have hsign' : ¬SignFollows lower upper b (indented foot bs) := by
          rintro ⟨hexp, s, hhead, hs⟩
          have hend' : isLineEnd s = false := by rcases hs with rfl | rfl <;> rfl
          exact hsign ⟨hexp, s, (head?_indented_eq_some_iff hfoot hend').1 hhead, hs⟩
        rw [numeralBody_cons hb hsign, numeralBody_cons hb hsign']
        exact ih bs.length (by simp at hn; omega) _ bs rfl
    · rw [numeralBody_of_not hb, numeralBody_of_not hb, indented_of_not_lineEnd hend]

theorem numeralRun_indented (b : UInt8) (bs : List UInt8) :
    numeralRun b (indented foot bs) =
      ((numeralRun b bs).1, indented foot (numeralRun b bs).2) := by
  by_cases hhex : b = 48 ∧ ∃ x, bs.head? = some x ∧ (x = 120 ∨ x = 88)
  · obtain ⟨rfl, x, hhead, hx⟩ := hhex
    obtain ⟨r, rfl⟩ := List.head?_eq_some_iff.1 hhead
    have hend : isLineEnd x = false := by rcases hx with rfl | rfl <;> rfl
    rw [indented_of_not_lineEnd hend, numeralRun_hex hx, numeralRun_hex hx]
    exact numeralBody_indented hfoot (fun _ ↦ not_inNumeral_of_isLineEnd rfl rfl) _ r
  · have hhex' : ¬(b = 48 ∧ ∃ x, (indented foot bs).head? = some x ∧ (x = 120 ∨ x = 88)) := by
      rintro ⟨hb, x, hhead, hx⟩
      have hend : isLineEnd x = false := by rcases hx with rfl | rfl <;> rfl
      exact hhex ⟨hb, x, (head?_indented_eq_some_iff hfoot hend).1 hhead, hx⟩
    rw [numeralRun_of_not hhex, numeralRun_of_not hhex']
    exact numeralBody_indented hfoot (fun _ ↦ not_inNumeral_of_isLineEnd rfl rfl) _ bs

theorem withLetter_indented (acc bs : List UInt8) :
    withLetter (acc, indented foot bs) =
      ((withLetter (acc, bs)).1, indented foot (withLetter (acc, bs)).2) := by
  rcases bs with _ | ⟨c, bs⟩
  · obtain ⟨x, hx⟩ := List.head?_eq_some_iff.1 hfoot
    have hnil : indented foot [] = 10 :: x := hx
    rw [hnil]
    exact Prod.ext rfl hx.symm
  cases hend : isLineEnd c with
  | true =>
    obtain ⟨x, hx⟩ := exists_indented_of_lineEnd foot hend bs
    have hletter : withLetter (acc, c :: bs) = (acc, c :: bs) := by
      rcases isLineEnd_iff.1 hend with rfl | rfl <;> rfl
    rw [hletter, hx]
    rfl
  | false =>
    rw [indented_of_not_lineEnd hend, withLetter, withLetter]
    dsimp only
    split
    · rfl
    · rw [indented_of_not_lineEnd hend]

theorem numeralText_indented (b : UInt8) (bs : List UInt8) :
    numeralText b (indented foot bs) =
      ((numeralText b bs).1, indented foot (numeralText b bs).2) := by
  rw [numeralText, numeralRun_indented hfoot, withLetter_indented hfoot]
  rfl

theorem readSymbol_indented (b : UInt8) (bs : List UInt8) :
    readSymbol b (indented foot bs) =
      ((readSymbol b bs).1, indented foot (readSymbol b bs).2) := by
  fun_cases readSymbol b bs with
  | case9 r =>
    rw [indented_of_not_lineEnd rfl, indented_of_not_lineEnd rfl]
    rfl
  | case10 r hr =>
    rw [indented_of_not_lineEnd rfl, readSymbol]
    intro x hx
    obtain ⟨r', rfl, -⟩ := (indented_eq_cons_iff hfoot rfl).1 hx
    exact hr r' rfl
  | case11 _ _ heq hle hshl hge hshr hidiv hne hcolon hdots hconcat =>
    have hsecond {c d : UInt8} (hd : isLineEnd d = false) (h : ∀ r, b = c → bs = d :: r → False)
        (x : List UInt8) (hb : b = c) (hx : indented foot bs = d :: x) : False := by
      obtain ⟨r, hr, -⟩ := (indented_eq_cons_iff hfoot hd).1 hx
      exact h r hb hr
    rw [readSymbol]
    exacts [hsecond rfl heq, hsecond rfl hle, hsecond rfl hshl, hsecond rfl hge, hsecond rfl hshr,
      hsecond rfl hidiv, hsecond rfl hne, hsecond rfl hcolon,
      fun x ↦ hsecond rfl hconcat (46 :: x), hsecond rfl hconcat]
  | _ =>
    rw [indented_of_not_lineEnd rfl]
    rfl

end Scanners

/-! ### Strings -/

/-- The strings that an input spells with line ends as they are (`v`) and with indented ones (`v'`):
they are the same, or if they take in a line end (`i`), the second is longer. -/
structure Lengthens (i : Bool) (v v' : List UInt8) : Prop where
  eq_of_false (h : i = false) : v' = v
  length_add_le : v.length + i.toNat ≤ v'.length

theorem Lengthens.refl (v : List UInt8) : Lengthens false v v where
  eq_of_false _ := rfl
  length_add_le := Nat.le_refl _

theorem Lengthens.append {i : Bool} {v v' : List UInt8} (h : Lengthens i v v') (bs : List UInt8) :
    Lengthens i (bs ++ v) (bs ++ v') where
  eq_of_false hi := by rw [h.eq_of_false hi]
  length_add_le := by
    have hlength := h.length_add_le
    simp only [List.length_append]
    omega

theorem Lengthens.append_of_lt {i : Bool} {v v' bs bs' : List UInt8} (h : Lengthens i v v')
    (hbs : bs.length < bs'.length) : Lengthens true (bs ++ v) (bs' ++ v') where
  eq_of_false := nofun
  length_add_le := by
    have hlength := h.length_add_le
    simp only [List.length_append, Bool.toNat_true]
    omega

theorem length_drop_lineFeed_lt {n : Nat} (hn : n ≤ 1) (b : UInt8) (bs : List UInt8) :
    ((lineFeed b bs).drop n).length < ((indentedEnd b bs).drop n).length := by
  rcases indentedEnd_eq b bs with h | h
  · rw [h, lineFeed, List.length_drop, List.length_drop]
    simp only [List.length_cons, List.length_nil]
    omega
  · rw [h, lineFeed, List.length_drop, List.length_drop]
    simp only [List.length_cons, List.length_nil]
    omega

/-! ### Long brackets -/

/-- Whether a long bracket goes over the end of a line. -/
def crossesLine (level : Nat) : List UInt8 → Bool
  | b :: bs => isLineEnd b || ((b ≠ 93 || (closeLong? level bs).isNone) && crossesLine level bs)
  | [] => false

theorem crossesLine_of_lineEnd {level : Nat} {b : UInt8} (hend : isLineEnd b = true)
    (bs : List UInt8) : crossesLine level (b :: bs) = true := by
  rw [crossesLine, hend, Bool.true_or]

theorem Bracketed.exists_indentedEnd {level : Nat} {bs body r : List UInt8}
    (h : Bracketed lineFeed level bs body r) :
    ∃ body', Bracketed indentedEnd level bs body' r ∧
      Lengthens (crossesLine level bs) body body' := by
  induction h with
  | @close bs r hclose =>
    refine ⟨[], .close hclose, ?_⟩
    rw [crossesLine, hclose]
    exact .refl []
  | @byte b bs body r hend hclose _ ih =>
    obtain ⟨body', hbody, hlengthens⟩ := ih
    have hinside : (b ≠ 93 || (closeLong? level bs).isNone) = true := by
      by_cases hb : b = 93
      · simp [hclose hb]
      · simp [hb]
    refine ⟨b :: body', .byte hend hclose hbody, ?_⟩
    rw [crossesLine, hend, hinside, Bool.false_or, Bool.true_and]
    exact hlengthens.append [b]
  | @lineEnd b bs body r hend _ ih =>
    obtain ⟨body', hbody, hlengthens⟩ := ih
    refine ⟨_, .lineEnd hend hbody, ?_⟩
    rw [crossesLine_of_lineEnd hend]
    exact hlengthens.append_of_lt (length_drop_lineFeed_lt (Nat.zero_le 1) b bs)

theorem Long.exists_indentedEnd {level : Nat} {bs body r : List UInt8}
    (h : Long lineFeed level bs body r) :
    ∃ body', Long indentedEnd level bs body' r ∧ Lengthens (crossesLine level bs) body body' := by
  cases h with
  | @lineEnd b bs body _ hend h =>
    obtain ⟨body', hbody, hlengthens⟩ := h.exists_indentedEnd
    refine ⟨_, .lineEnd hend hbody, ?_⟩
    rw [crossesLine_of_lineEnd hend]
    exact hlengthens.append_of_lt (length_drop_lineFeed_lt (Nat.le_refl 1) b bs)
  | other hend h =>
    obtain ⟨body', hbody, hlengthens⟩ := h.exists_indentedEnd
    exact ⟨body', .other hend hbody, hlengthens⟩

/-- Two spaces in a long bracket. -/
theorem Bracketed.spaces {ends : LineEndBytes} {level : Nat} {bs body r : List UInt8}
    (h : Bracketed ends level bs body r) :
    Bracketed ends level (32 :: 32 :: bs) (32 :: 32 :: body) r :=
  .byte rfl nofun (.byte rfl nofun h)

theorem Bracketed.indentedEnd_append {level : Nat} {bs body r : List UInt8}
    (h : Bracketed lineFeed level bs body r) (b : UInt8) (ends : List UInt8) :
    Bracketed lineFeed level (indentedEnd b ends ++ bs) (indentedEnd b ends ++ body) r := by
  have hend : Bracketed lineFeed level (10 :: 32 :: 32 :: bs) (10 :: 32 :: 32 :: body) r :=
    .lineEnd rfl h.spaces
  rcases indentedEnd_eq b ends with heq | heq
  · rw [heq]
    exact hend
  · rw [heq]
    exact .lineEnd rfl hend.spaces

theorem Bracketed.indented (hfoot : foot.head? = some 10) {level : Nat} {bs body r : List UInt8}
    (h : Bracketed indentedEnd level bs body r) :
    Bracketed lineFeed level (Lexer.indented foot bs) body (Lexer.indented foot r) := by
  induction h with
  | @close bs r hclose =>
    rw [indented_of_not_lineEnd rfl]
    exact .close ((closeLong?_indented_iff hfoot).2 ⟨r, hclose, rfl⟩)
  | @byte b bs body r hend hclose _ ih =>
    rw [indented_of_not_lineEnd hend]
    refine .byte hend (fun hb ↦ Option.eq_none_iff_forall_ne_some.2 fun x hx ↦ ?_) ih
    obtain ⟨r', hr', -⟩ := (closeLong?_indented_iff hfoot).1 hx
    exact Option.some_ne_none r' (hr'.symm.trans (hclose hb))
  | @lineEnd b bs body r hend _ ih =>
    rw [indented_of_lineEnd foot hend]
    exact ih.indentedEnd_append b bs

/-- The line end that a long bracket may start with is dropped, but not what is in front of the next
line after indentation. -/
theorem Long.indented (hfoot : foot.head? = some 10) {level : Nat} {bs body r : List UInt8}
    (h : Long indentedEnd level bs body r) :
    Long lineFeed level (Lexer.indented foot bs) body (Lexer.indented foot r) := by
  cases h with
  | @lineEnd b bs body _ hend h =>
    rw [indented_of_lineEnd foot hend]
    have hbody := h.indented hfoot
    rcases indentedEnd_eq b bs with heq | heq
    · rw [heq]
      exact .lineEnd rfl hbody.spaces
    · rw [heq]
      exact .lineEnd rfl (Bracketed.lineEnd rfl hbody.spaces).spaces
  | @other b bs _ _ hend h =>
    have hbody := h.indented hfoot
    rw [indented_of_not_lineEnd hend] at hbody ⊢
    exact .other hend hbody

/-! ### Quoted strings -/

/-- Whether a backslash in a string in quotes `q` stands in front of something that `p` is about. -/
def escapes (p : UInt8 → List UInt8 → Bool) (q : UInt8) : List UInt8 → Bool
  | 92 :: e :: bs => p e bs || escapes p q bs
  | b :: bs => b ≠ q && escapes p q bs
  | [] => false

theorem escapes_of_ne {p : UInt8 → List UInt8 → Bool} {q b : UInt8} (hq : b ≠ q) (hescape : b ≠ 92)
    (bs : List UInt8) : escapes p q (b :: bs) = escapes p q bs := by
  rw [escapes]
  · simp [hq]
  · exact fun _ _ h ↦ absurd h hescape

theorem escapes_close {p : UInt8 → List UInt8 → Bool} {q : UInt8} (hescape : q ≠ 92)
    (bs : List UInt8) : escapes p q (q :: bs) = false := by
  rw [escapes]
  · simp
  · exact fun _ _ h ↦ absurd h hescape

theorem escapes_append {p : UInt8 → List UInt8 → Bool} {q : UInt8} {taken : List UInt8}
    (h : ∀ b ∈ taken, b ≠ q ∧ b ≠ 92) (bs : List UInt8) :
    escapes p q (taken ++ bs) = escapes p q bs := by
  induction taken with
  | nil => rfl
  | cons b taken ih =>
    obtain ⟨hb, htaken⟩ := List.forall_mem_cons.1 h
    rw [List.cons_append, escapes_of_ne hb.1 hb.2, ih htaken]

theorem escapes_mono {p p' : UInt8 → List UInt8 → Bool} {q : UInt8} {bs : List UInt8}
    (hp : ∀ e r, p e r = true → p' e r = true) (h : escapes p q bs = true) :
    escapes p' q bs = true := by
  fun_induction escapes p q bs with
  | case1 e bs ih =>
    rw [Bool.or_eq_true] at h
    rw [escapes, Bool.or_eq_true]
    exact h.imp (hp e bs) ih
  | case2 b bs hne ih =>
    rw [Bool.and_eq_true] at h
    rw [escapes, Bool.and_eq_true]
    · exact h.imp_right ih
    · exact hne
  | case3 => exact nomatch h

/-- Indentation is white space, so white space that has an end is passed over all the same. -/
theorem dropWhile_isSpace_indented {bs : List UInt8} (h : bs.dropWhile Num.isSpace ≠ []) :
    (Lexer.indented foot bs).dropWhile Num.isSpace =
      Lexer.indented foot (bs.dropWhile Num.isSpace) := by
  fun_induction Lexer.indented foot bs with
  | case1 => exact absurd rfl h
  | case2 bs ih => exact ih h
  | case3 b bs _ hend ih =>
    have hspace := isSpace_of_isLineEnd hend
    rw [List.dropWhile_cons_of_pos hspace] at h ⊢
    exact ih h
  | case4 b bs _ hend ih =>
    rw [List.dropWhile_cons] at h ⊢
    rw [List.dropWhile_cons]
    split
    case isTrue hspace =>
      rw [if_pos hspace] at h
      exact ih h
    case isFalse => rw [indented_of_not_lineEnd (by simpa using hend)]

theorem Escape.indented (hfoot : foot.head? = some 10) {e : UInt8} {bs cs r : List UInt8}
    (h : Escape (e :: bs) cs r) (hr : r ≠ []) :
    Escape (e :: Lexer.indented foot bs) cs (Lexer.indented foot r) := by
  have hend := h.not_isLineEnd
  cases h with
  | simple h => exact .simple h
  | hex h =>
    obtain ⟨taken, rfl, hplain, hread⟩ := hexEscape_eq_ok h
    rw [indented_append fun b hb ↦ (hplain b hb).not_lineEnd]
    exact .hex (hread 0 [] _)
  | code h =>
    obtain ⟨taken, rfl, hplain, hread⟩ := codeEscape_eq_ok h
    rw [indented_append fun b hb ↦ (hplain b hb).not_lineEnd]
    exact .code (hread 0 [] _)
  | space =>
    rw [← dropWhile_isSpace_indented hr]
    exact .space
  | decimal hdigit h =>
    obtain ⟨ds, hds, htake, hplain, hread⟩ := decimalEscape_eq_ok h
    have hinput : e :: Lexer.indented foot bs = ds ++ Lexer.indented foot r := by
      rw [← indented_of_not_lineEnd hend, hds,
        indented_append fun b hb ↦ (hplain b hb).not_lineEnd]
    have hline (b : UInt8) (hb : isLineEnd b = true) : Num.isDigit b = false := by
      rcases isLineEnd_iff.1 hb with rfl | rfl <;> rfl
    refine .decimal hdigit (hinput ▸ hread 0 [] _ ?_)
    rw [← hinput, ← indented_of_not_lineEnd hend, takeWhile_take_indented hfoot hline, htake]

theorem ne_of_isSpace {q b : UInt8} (hq : q = 34 ∨ q = 39) (hb : Num.isSpace b = true) :
    b ≠ q ∧ b ≠ 92 := by
  constructor
  · rintro rfl
    rcases hq with rfl | rfl <;> exact nomatch hb
  · rintro rfl
    exact nomatch hb

/-- An escape holds no other escape. -/
theorem Escape.escapes_eq {p : UInt8 → List UInt8 → Bool} {q e : UInt8} {bs cs r : List UInt8}
    (h : Escape (e :: bs) cs r) (hq : q = 34 ∨ q = 39) : escapes p q bs = escapes p q r := by
  have hplain {taken : List UInt8} (htaken : ∀ b ∈ taken, Plain b) (b : UInt8) (hb : b ∈ taken) :
      b ≠ q ∧ b ≠ 92 := by
    have hb := htaken b hb
    refine ⟨?_, hb.ne_backslash⟩
    rcases hq with rfl | rfl
    · exact hb.ne_double
    · exact hb.ne_single
  cases h with
  | simple h => rfl
  | hex h =>
    obtain ⟨taken, rfl, htaken, -⟩ := hexEscape_eq_ok h
    exact escapes_append (hplain htaken) r
  | code h =>
    obtain ⟨taken, rfl, htaken, -⟩ := codeEscape_eq_ok h
    exact escapes_append (hplain htaken) r
  | space =>
    have hspace (b : UInt8) (hb : b ∈ bs.takeWhile Num.isSpace) : b ≠ q ∧ b ≠ 92 :=
      ne_of_isSpace hq (List.mem_takeWhile_imp hb)
    rw [← escapes_append hspace (bs.dropWhile Num.isSpace), List.takeWhile_append_dropWhile]
  | decimal hdigit h =>
    obtain ⟨ds, hds, htake, htaken, -⟩ := decimalEscape_eq_ok h
    rw [List.take_succ_cons, List.takeWhile_cons_of_pos hdigit] at htake
    subst htake
    rw [(List.cons.inj hds).2]
    exact escapes_append (fun b hb ↦ hplain htaken b (List.mem_cons_of_mem e hb)) r

theorem escapes_afterLineEnd {p : UInt8 → List UInt8 → Bool} {q : UInt8} (hq : q = 34 ∨ q = 39)
    (e : UInt8) (bs : List UInt8) : escapes p q (afterLineEnd e bs) = escapes p q bs := by
  rcases bs with _ | ⟨c, bs⟩
  · rfl
  rw [afterLineEnd]
  split
  case isTrue hc =>
    rw [Bool.and_eq_true] at hc
    have hne := ne_of_isSpace hq (isSpace_of_isLineEnd hc.1)
    exact (escapes_of_ne hne.1 hne.2 bs).symm
  case isFalse => rfl

/-- A line end behind a backslash. -/
def escapesLineEnd : UInt8 → List UInt8 → Bool := escapes fun e _ ↦ isLineEnd e

/-- A line end behind a backslash that is two for the indentation. -/
def escapesLineEnds : UInt8 → List UInt8 → Bool := escapes isTwoLineEnds

theorem escapesLineEnd_of_escapesLineEnds {q : UInt8} {bs : List UInt8}
    (h : escapesLineEnds q bs = true) : escapesLineEnd q bs = true := by
  refine escapes_mono (fun e r he ↦ ?_) h
  have he : e = 10 := by simp_all [isTwoLineEnds]
  rw [he]
  rfl

theorem Quoted.exists_indentedEnd {q : UInt8} (hq : q = 34 ∨ q = 39) {bs body r : List UInt8}
    (h : Quoted lineFeed q bs body r) :
    ∃ body', Quoted indentedEnd q bs body' r ∧ Lengthens (escapesLineEnd q bs) body body' := by
  have hescape : q ≠ 92 := by rcases hq with rfl | rfl <;> decide
  induction h with
  | close =>
    rw [escapesLineEnd, escapes_close hescape]
    exact ⟨[], .close, .refl []⟩
  | @byte b bs body r hclose hend hescape _ ih =>
    obtain ⟨body', hbody, hlengthens⟩ := ih
    rw [escapesLineEnd, escapes_of_ne hclose hescape]
    exact ⟨b :: body', .byte hclose hend hescape hbody, hlengthens.append [b]⟩
  | @lineEnd e bs body r hend _ ih =>
    obtain ⟨body', hbody, hlengthens⟩ := ih
    rw [escapesLineEnd, escapes, hend, Bool.true_or]
    exact ⟨_, .lineEnd hend hbody,
      hlengthens.append_of_lt (length_drop_lineFeed_lt (Nat.zero_le 1) e bs)⟩
  | @escape bs bs' cs body r he _ ih =>
    obtain ⟨body', hbody, hlengthens⟩ := ih
    rcases bs with _ | ⟨e, bs⟩
    · exact nomatch he
    rw [escapesLineEnd, escapes, he.not_isLineEnd, Bool.false_or, he.escapes_eq hq]
    exact ⟨cs ++ body', .escape he hbody, hlengthens.append cs⟩

theorem Quoted.indented (hfoot : foot.head? = some 10) {q : UInt8} (hq : q = 34 ∨ q = 39)
    {bs body r : List UInt8} (h : Quoted indentedEnd q bs body r)
    (hends : escapesLineEnds q bs = false) :
    Quoted lineFeed q (Lexer.indented foot bs) body (Lexer.indented foot r) := by
  have hend : isLineEnd q = false := by rcases hq with rfl | rfl <;> rfl
  have hescape : q ≠ 92 := by rcases hq with rfl | rfl <;> decide
  have hspace : (32 : UInt8) ≠ q := by rcases hq with rfl | rfl <;> decide
  induction h with
  | close =>
    rw [indented_of_not_lineEnd hend]
    exact .close
  | byte hclose hend hescape _ ih =>
    rw [escapesLineEnds, escapes_of_ne hclose hescape] at hends
    rw [indented_of_not_lineEnd hend]
    exact .byte hclose hend hescape (ih hends)
  | @lineEnd e bs body r hend _ ih =>
    rw [escapesLineEnds, escapes, Bool.or_eq_false_iff, ← escapes_afterLineEnd hq e] at hends
    rw [indented_of_not_lineEnd rfl, indented_of_lineEnd foot hend, indentedEnd_of_one hends.1]
    exact .lineEnd rfl
      (.byte hspace rfl (by decide) (.byte hspace rfl (by decide) (ih hends.2)))
  | @escape bs bs' cs body r he h ih =>
    rcases bs with _ | ⟨e, bs⟩
    · exact nomatch he
    rw [escapesLineEnds, escapes, Bool.or_eq_false_iff, he.escapes_eq hq] at hends
    rw [indented_of_not_lineEnd rfl, indented_of_not_lineEnd he.not_isLineEnd]
    exact .escape (he.indented hfoot h.ne_nil) (ih hends.2)

theorem Quoted.not_isLineEnd {ends : LineEndBytes} {q : UInt8} (hq : q = 34 ∨ q = 39) {b : UInt8}
    {bs body r : List UInt8} (h : Quoted ends q (b :: bs) body r) : isLineEnd b = false := by
  cases h with
  | close => rcases hq with rfl | rfl <;> rfl
  | byte _ hend _ _ => exact hend
  | lineEnd => rfl
  | escape => rfl

theorem Quoted.of_ne {ends : LineEndBytes} {q b : UInt8} (hclose : b ≠ q) (hescape : b ≠ 92)
    {bs body r : List UInt8} (h : Quoted ends q (b :: bs) body r) :
    ∃ body', Quoted ends q bs body' r := by
  cases h with
  | close => exact absurd rfl hclose
  | byte _ _ _ h => exact ⟨_, h⟩
  | lineEnd => exact absurd rfl hescape
  | escape => exact absurd rfl hescape

theorem Quoted.of_escape {ends : LineEndBytes} {q e : UInt8} (hq : q ≠ 92) {bs bs' cs : List UInt8}
    (he : Escape (e :: bs) cs bs') {body r : List UInt8}
    (h : Quoted ends q (92 :: e :: bs) body r) : ∃ body', Quoted ends q bs' body' r := by
  cases h with
  | close => exact absurd rfl hq
  | byte _ _ hescape _ => exact absurd rfl hescape
  | lineEnd hend _ => exact absurd (he.not_isLineEnd.symm.trans hend) Bool.false_ne_true
  | escape he' h =>
    obtain ⟨-, rfl⟩ := he.unique he'
    exact ⟨_, h⟩

/-- A line feed and two spaces behind a backslash. -/
theorem Quoted.of_lineFeed {ends : LineEndBytes} {q : UInt8} (hq : q = 34 ∨ q = 39)
    {bs body r : List UInt8} (h : Quoted ends q (92 :: 10 :: 32 :: 32 :: bs) body r) :
    ∃ body', Quoted ends q bs body' r := by
  have hspace : (32 : UInt8) ≠ q := by rcases hq with rfl | rfl <;> decide
  cases h with
  | close => exact absurd hq (by decide)
  | byte _ _ hescape _ => exact absurd rfl hescape
  | lineEnd _ h =>
    obtain ⟨_, hone⟩ := h.of_ne hspace (by decide)
    exact hone.of_ne hspace (by decide)
  | escape he _ => exact nomatch he.not_isLineEnd

/-- A line feed with a carriage return behind it cannot be escaped in the indented input: the
backslash stands in front of the first of two line ends. -/
theorem Quoted.not_indented (hfoot : foot.head? = some 10) {ends : LineEndBytes} {q : UInt8}
    (hq : q = 34 ∨ q = 39) {bs body r : List UInt8} (h : Quoted ends q bs body r)
    (hends : escapesLineEnds q bs = true) (body' r' : List UInt8) :
    ¬Quoted lineFeed q (Lexer.indented foot bs) body' r' := by
  have hescape : q ≠ 92 := by rcases hq with rfl | rfl <;> decide
  intro h'
  induction h generalizing body' with
  | close =>
    rw [escapesLineEnds, escapes_close hescape] at hends
    exact nomatch hends
  | byte hclose hend hescape _ ih =>
    rw [escapesLineEnds, escapes_of_ne hclose hescape] at hends
    rw [indented_of_not_lineEnd hend] at h'
    obtain ⟨_, hrest⟩ := h'.of_ne hclose hescape
    exact ih hends _ hrest
  | @lineEnd e bs body r hend _ ih =>
    rw [escapesLineEnds, escapes, ← escapes_afterLineEnd hq e] at hends
    rw [indented_of_not_lineEnd rfl, indented_of_lineEnd foot hend] at h'
    cases htwo : isTwoLineEnds e bs with
    | false =>
      rw [htwo, Bool.false_or] at hends
      rw [indentedEnd_of_one htwo] at h'
      obtain ⟨_, hrest⟩ := h'.of_lineFeed hq
      exact ih hends _ hrest
    | true =>
      rw [indentedEnd_of_two htwo] at h'
      obtain ⟨_, hrest⟩ := h'.of_lineFeed hq
      exact nomatch hrest.not_isLineEnd hq
  | @escape bs bs' cs body r he h ih =>
    rcases bs with _ | ⟨e, bs⟩
    · exact nomatch he
    have hline := he.not_isLineEnd
    have hone : isTwoLineEnds e bs = false := by
      have hlf : e ≠ 10 := by
        rintro rfl
        exact nomatch hline
      simp [isTwoLineEnds, hlf]
    rw [escapesLineEnds, escapes, hone, Bool.false_or, he.escapes_eq hq] at hends
    rw [indented_of_not_lineEnd rfl, indented_of_not_lineEnd hline] at h'
    obtain ⟨_, hrest⟩ := h'.of_escape hescape (he.indented hfoot h.ne_nil)
    exact ih hends _ hrest

end MacroStream.Script.Lexer
