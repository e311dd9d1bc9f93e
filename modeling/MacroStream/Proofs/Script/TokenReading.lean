import MacroStream.Proofs.Script.StringReading
import MacroStream.Proofs.Text.Bytes

/-!
# How tokens are read

`Reads` says what a piece of the input is: which token it is, if any, and where it ends. `Lexes`
says it of a whole input, together with where the tokens start. Neither has lines, messages or a
bound on the number of steps, and both agree with the lexer: `readPiece` gives the piece that is
there (`reads_of_readPiece`, `Reads.readPiece_eq`), and `lex` gives the tokens of an input if all of
it can be read (`tokens?_eq_some_iff`).
-/

namespace MacroStream.Script.Lexer

/-! ### Numerals -/

/-- What looks like a numeral that starts with `b`, in reverse, and the rest. -/
def numeralRun (b : UInt8) (bs : List UInt8) : List UInt8 × List UInt8 :=
  match bs with
  | x :: r =>
    if b = 48 && (x = 120 || x = 88) then numeralBody 112 80 [x, b] r
    else numeralBody 101 69 [b] bs
  | [] => ([b], [])

theorem numeralRun_hex {x : UInt8} (hx : x = 120 ∨ x = 88) (bs : List UInt8) :
    numeralRun 48 (x :: bs) = numeralBody 112 80 [x, 48] bs := by
  rw [numeralRun, if_pos (by simpa using hx)]

theorem numeralRun_of_not {b : UInt8} {bs : List UInt8}
    (h : ¬(b = 48 ∧ ∃ x, bs.head? = some x ∧ (x = 120 ∨ x = 88))) :
    numeralRun b bs = numeralBody 101 69 [b] bs := by
  rcases bs with _ | ⟨x, bs⟩
  · rw [numeralRun, numeralBody]
  · rw [numeralRun, if_neg]
    intro hhex
    obtain ⟨hb, hx⟩ : b = 48 ∧ (x = 120 ∨ x = 88) := by simpa using hhex
    exact h ⟨hb, x, rfl, hx⟩

/-- Takes a letter at the front of the rest as well. -/
def withLetter (run : List UInt8 × List UInt8) : List UInt8 × List UInt8 :=
  match run.2 with
  | c :: r => if isLetter c then (c :: run.1, r) else run
  | [] => (run.1, [])

/-- The text of a numeral that starts with `b`, in reverse, and the rest. -/
def numeralText (b : UInt8) (bs : List UInt8) : List UInt8 × List UInt8 :=
  withLetter (numeralRun b bs)

/-- The token for a numeral. -/
def numeralToken : Num → Token
  | .int n => .int n
  | .float x => .float x

theorem readNumeral_eq (line : Nat) (b : UInt8) (bs : List UInt8) :
    readNumeral line b bs =
      match Num.read? (collect (numeralText b bs).1) with
      | some (.int n) =>
        .ok (⟨.int n, line, collect (numeralText b bs).1⟩, (numeralText b bs).2)
      | some (.float x) =>
        .ok (⟨.float x, line, collect (numeralText b bs).1⟩, (numeralText b bs).2)
      | none =>
        .error (.near line "malformed number" (.float 0.0) (collect (numeralText b bs).1)) :=
  rfl

/-- A numeral is read from its text alone. -/
theorem readNumeral_eq_ok_iff {line : Nat} {b : UInt8} {bs r : List UInt8} {l : Lexeme} :
    readNumeral line b bs = .ok (l, r) ↔
      ∃ n, Num.read? (collect (numeralText b bs).1) = some n ∧
        l = ⟨numeralToken n, line, collect (numeralText b bs).1⟩ ∧ r = (numeralText b bs).2 := by
  rw [readNumeral_eq]
  rcases Num.read? (collect (numeralText b bs).1) with _ | n | x <;>
    simp [numeralToken, eq_comm]

/-- A byte that a numeral goes on with. -/
def InNumeral (lower upper b : UInt8) : Prop :=
  b = lower ∨ b = upper ∨ Num.isHexDigit b = true ∨ b = 46

/-- The byte `b` marks an exponent, and its sign follows. -/
def SignFollows (lower upper b : UInt8) (bs : List UInt8) : Prop :=
  (b = lower ∨ b = upper) ∧ ∃ s, bs.head? = some s ∧ (s = 43 ∨ s = 45)

theorem numeralBody_sign {lower upper b s : UInt8} (hb : b = lower ∨ b = upper)
    (hs : s = 43 ∨ s = 45) (acc bs : List UInt8) :
    numeralBody lower upper acc (b :: s :: bs) = numeralBody lower upper (s :: b :: acc) bs := by
  rw [numeralBody, if_pos (by simpa using hb), if_pos (by simpa using hs)]

theorem numeralBody_cons {lower upper b : UInt8} {bs : List UInt8} (hb : InNumeral lower upper b)
    (hsign : ¬SignFollows lower upper b bs) (acc : List UInt8) :
    numeralBody lower upper acc (b :: bs) = numeralBody lower upper (b :: acc) bs := by
  rcases bs with _ | ⟨s, bs⟩
  · rw [numeralBody, if_pos (by simpa [InNumeral, or_assoc] using hb), numeralBody]
  · rw [numeralBody]
    split
    case isTrue hexp =>
      rw [if_neg]
      intro hs
      exact hsign ⟨by simpa using hexp, s, rfl, by simpa using hs⟩
    case isFalse hexp =>
      rw [if_pos]
      simpa [InNumeral, or_assoc] using (or_assoc.2 hb).resolve_left (by simpa using hexp)

theorem numeralBody_of_not {lower upper b : UInt8} (hb : ¬InNumeral lower upper b)
    (acc bs : List UInt8) : numeralBody lower upper acc (b :: bs) = (acc, b :: bs) := by
  rcases bs with _ | ⟨s, bs⟩
  · rw [numeralBody, if_neg (by simpa [InNumeral, or_assoc] using hb)]
  · rw [InNumeral, ← or_assoc, not_or] at hb
    rw [numeralBody, if_neg (by simpa using hb.1), if_neg (by simpa using hb.2)]

theorem length_numeralBody_le (lower upper : UInt8) (acc bs : List UInt8) :
    (numeralBody lower upper acc bs).2.length ≤ bs.length := by
  fun_induction numeralBody lower upper acc bs <;> simp_all <;> omega

theorem length_withLetter_le (run : List UInt8 × List UInt8) :
    (withLetter run).2.length ≤ run.2.length := by
  unfold withLetter
  split
  case h_1 c r heq =>
    rw [heq]
    split <;> simp [heq]
  case h_2 => exact Nat.zero_le _

theorem length_numeralText_le (b : UInt8) (bs : List UInt8) :
    (numeralText b bs).2.length ≤ bs.length := by
  refine (length_withLetter_le _).trans ?_
  unfold numeralRun
  split
  · split
    · exact Nat.le_succ_of_le (length_numeralBody_le ..)
    · exact length_numeralBody_le ..
  · exact Nat.le_refl _

/-! ### Pieces -/

/-- The token of a piece, unless it is a gap. -/
def Piece.token? : Piece → Option Token
  | gap _ _ => none
  | lexeme l _ => some l.token

/-- What stands behind a piece. -/
def Piece.rest : Piece → List UInt8
  | gap _ r => r
  | lexeme _ r => r

/-- A numeral starts with a digit, or with a point and a digit. -/
def StartsNumeral (b : UInt8) (bs : List UInt8) : Prop :=
  Num.isDigit b = true ∨ b = 46 ∧ ∃ d, bs.head? = some d ∧ Num.isDigit d = true

/-- The byte `b`, in front of `bs`, starts nothing but a symbol. -/
structure StartsSymbol (b : UInt8) (bs : List UInt8) : Prop where
  not_space : Num.isSpace b = false
  not_letter : isLetter b = false
  not_numeral : ¬StartsNumeral b bs
  not_quote : ¬(b = 34 ∨ b = 39)
  not_comment : b = 45 → bs.head? ≠ some 45
  not_long : b = 91 → openLong? bs = none ∧ bs.head? ≠ some 61

/-- A piece at the front of the input: the input, the token unless it is a gap, and the rest. -/
inductive Reads : List UInt8 → Option Token → List UInt8 → Prop
  | lineEnd {b : UInt8} {bs : List UInt8} (hend : isLineEnd b = true) :
      Reads (b :: bs) none (afterLineEnd b bs)
  | space {b : UInt8} {bs : List UInt8} (hend : isLineEnd b = false) (h : Num.isSpace b = true) :
      Reads (b :: bs) none bs
  | lineComment {bs : List UInt8} (h : ∀ r, bs = 91 :: r → openLong? r = none) :
      Reads (45 :: 45 :: bs) none (skipComment bs)
  | longComment {level : Nat} {bs bs' body r : List UInt8}
      (hopen : openLong? bs = some (level, bs')) (h : Long lineFeed level bs' body r) :
      Reads (45 :: 45 :: 91 :: bs) none r
  | name {b : UInt8} {bs : List UInt8} (h : isLetter b = true) :
      Reads (b :: bs) (some (nameToken (collect ((bs.takeWhile isNameByte).reverse ++ [b]))))
        (bs.dropWhile isNameByte)
  | numeral {b : UInt8} {bs : List UInt8} {n : Num} (hb : StartsNumeral b bs)
      (h : Num.read? (collect (numeralText b bs).1) = some n) :
      Reads (b :: bs) (some (numeralToken n)) (numeralText b bs).2
  | string {bs body r : List UInt8} (h : Spells lineFeed bs body r) :
      Reads bs (some (.str ⟨body.toArray⟩)) r
  | symbol {b : UInt8} {bs : List UInt8} (h : StartsSymbol b bs) :
      Reads (b :: bs) (some (.symbol (readSymbol b bs).1)) (readSymbol b bs).2

theorem not_isLineEnd_of_not_isSpace {b : UInt8} (h : Num.isSpace b = false) :
    isLineEnd b = false := by
  by_contra hend
  rw [isSpace_of_isLineEnd (by simpa using hend)] at h
  exact nomatch h

theorem not_isSpace_of_isLetter {b : UInt8} (h : isLetter b = true) : Num.isSpace b = false := by
  simp only [isLetter, Bool.or_eq_true, Bool.and_eq_true, decide_eq_true_eq,
    UInt8.le_iff_toNat_le, ← UInt8.toNat_inj, UInt8.reduceToNat] at h
  simp only [Num.isSpace, Bool.or_eq_false_iff, Bool.and_eq_false_iff, decide_eq_false_iff_not,
    UInt8.le_iff_toNat_le, ← UInt8.toNat_inj, UInt8.reduceToNat]
  omega

theorem not_isSpace_of_isDigit {b : UInt8} (h : Num.isDigit b = true) :
    Num.isSpace b = false ∧ isLetter b = false := by
  simp only [Num.isDigit, Bool.and_eq_true, decide_eq_true_eq,
    UInt8.le_iff_toNat_le, UInt8.reduceToNat] at h
  simp only [Num.isSpace, isLetter, Bool.or_eq_false_iff, Bool.and_eq_false_iff,
    decide_eq_false_iff_not, UInt8.le_iff_toNat_le, ← UInt8.toNat_inj, UInt8.reduceToNat]
  omega

theorem skipComment_bracket (bs : List UInt8) : skipComment (91 :: bs) = skipComment bs :=
  List.dropWhile_cons_of_pos rfl

theorem reads_of_readNumeral {line : Nat} {b : UInt8} {bs r : List UInt8} {l : Lexeme}
    (hb : StartsNumeral b bs) (h : readNumeral line b bs = .ok (l, r)) :
    Reads (b :: bs) (some l.token) r := by
  obtain ⟨n, hn, rfl, rfl⟩ := readNumeral_eq_ok_iff.1 h
  exact .numeral hb hn

/-! A piece that starts with neither white space nor a letter, a digit or a quote is read by
`readMark`: a comment, a long string, a numeral that starts with a point, or a symbol. -/

/-- The byte `b` is neither white space nor a letter, a digit or a quote. -/
structure StartsMark (b : UInt8) : Prop where
  not_space : Num.isSpace b = false
  not_letter : isLetter b = false
  not_digit : Num.isDigit b = false
  not_quote : ¬(b = 34 ∨ b = 39)

theorem startsMark_minus : StartsMark 45 := ⟨rfl, rfl, rfl, by decide⟩

theorem startsMark_bracket : StartsMark 91 := ⟨rfl, rfl, rfl, by decide⟩

theorem startsMark_point : StartsMark 46 := ⟨rfl, rfl, rfl, by decide⟩

theorem StartsSymbol.startsMark {b : UInt8} {bs : List UInt8} (h : StartsSymbol b bs) :
    StartsMark b where
  not_space := h.not_space
  not_letter := h.not_letter
  not_digit := by
    by_contra hdigit
    exact h.not_numeral (.inl (by simpa using hdigit))
  not_quote := h.not_quote

/-- Reads a piece that starts with neither white space nor a letter, a digit or a quote. -/
def readMark (line : Nat) (b : UInt8) (bs : List UInt8) : Scan Piece :=
  match b, bs with
  | 45, 45 :: 91 :: r =>
    match openLong? r with
    | some (level, r) => do
      let (_, line, r) ← readLong "comment" level line r
      return .gap line r
    | none => .ok (.gap line (skipComment r))
  | 45, 45 :: r => .ok (.gap line (skipComment r))
  | 91, _ =>
    match openLong? bs with
    | some (level, r) => do
      let (body, line, r) ← readLong "string" level line r
      let bracket (c : UInt8) := c :: List.replicate level 61 ++ [c]
      return .lexeme ⟨.str (collect body), line, collect (bracket 93 ++ body ++ bracket 91)⟩ r
    | none =>
      let signs := bs.takeWhile (· = 61)
      if signs.isEmpty then .ok (.lexeme ⟨.symbol (.char 91), line, .empty⟩ bs)
      else
        .error (.near line "invalid long string delimiter" (.str .empty)
          (collect (signs ++ [91])))
  | 46, d :: _ => do
    if Num.isDigit d then
      let (l, r) ← readNumeral line b bs
      return .lexeme l r
    else
      let (s, r) := readSymbol b bs
      return .lexeme ⟨.symbol s, line, .empty⟩ r
  | _, _ =>
    let (s, r) := readSymbol b bs
    .ok (.lexeme ⟨.symbol s, line, .empty⟩ r)

theorem readPiece_eq_readMark {b : UInt8} (hb : StartsMark b) (line : Nat) (bs : List UInt8) :
    readPiece line b bs = readMark line b bs := by
  have hquote : (b = 34 || b = 39) = false := by simpa using hb.not_quote
  rw [readPiece.eq_def, not_isLineEnd_of_not_isSpace hb.not_space, hb.not_space, hb.not_letter,
    hb.not_digit, hquote]
  rfl

/-- A bracket that opens no long string is a symbol. -/
theorem startsSymbol_bracket {bs : List UInt8} (hopen : openLong? bs = none)
    (hsigns : (bs.takeWhile (· = 61)).isEmpty = true) : StartsSymbol 91 bs := by
  have hne : bs.head? ≠ some 61 := by
    intro hhead
    obtain ⟨tail, rfl⟩ := List.head?_eq_some_iff.1 hhead
    cases hsigns
  exact ⟨rfl, rfl, by simp [StartsNumeral, Num.isDigit], by decide, (absurd · (by decide)),
    fun _ ↦ ⟨hopen, hne⟩⟩

/-- A point that starts no numeral is a symbol. -/
theorem startsSymbol_point {d : UInt8} (hd : ¬Num.isDigit d = true) (bs : List UInt8) :
    StartsSymbol 46 (d :: bs) := by
  refine ⟨rfl, rfl, ?_, by decide, (absurd · (by decide)), (absurd · (by decide))⟩
  rintro (h46 | ⟨-, _, ⟨⟩, hd'⟩)
  · exact absurd h46 (by decide)
  · exact hd hd'

theorem reads_of_readMark {line : Nat} {b : UInt8} {bs : List UInt8} {p : Piece}
    (hb : StartsMark b) (h : readMark line b bs = .ok p) : Reads (b :: bs) p.token? p.rest := by
  unfold readMark at h
  split at h
  case h_1 r =>
    cases hopen : openLong? r with
    | some read =>
      simp only [hopen] at h
      obtain ⟨_, hlong, hp⟩ := Scan.bind_eq_ok_iff.1 h
      cases hp
      exact .longComment hopen (long_of_readLong hlong)
    | none =>
      simp only [hopen] at h
      cases h
      rw [Piece.rest, ← skipComment_bracket]
      refine .lineComment ?_
      rintro r' ⟨⟩
      exact hopen
  case h_2 r hr =>
    cases h
    refine .lineComment ?_
    rintro r' rfl
    exact absurd rfl (hr r')
  case h_3 =>
    cases hopen : openLong? bs with
    | some read =>
      simp only [hopen] at h
      obtain ⟨_, hlong, hp⟩ := Scan.bind_eq_ok_iff.1 h
      cases hp
      exact .string (.long hopen (long_of_readLong hlong))
    | none =>
      simp only [hopen] at h
      split at h
      case isFalse => cases h
      case isTrue hsigns =>
        cases h
        exact .symbol (startsSymbol_bracket hopen hsigns)
  case h_4 d _ =>
    split at h
    case isTrue hd =>
      obtain ⟨_, hread, hp⟩ := Scan.bind_eq_ok_iff.1 h
      cases hp
      exact reads_of_readNumeral (.inr ⟨rfl, d, rfl, hd⟩) hread
    case isFalse hd =>
      cases h
      exact .symbol (startsSymbol_point hd _)
  case h_5 hbracket hlong hcomment hpoint =>
    cases h
    refine .symbol ⟨hb.not_space, hb.not_letter, ?_, hb.not_quote, ?_, ?_⟩
    · rintro (hdigit | ⟨rfl, d, hd, -⟩)
      · exact absurd (hb.not_digit.symm.trans hdigit) Bool.false_ne_true
      · obtain ⟨tail, rfl⟩ := List.head?_eq_some_iff.1 hd
        exact hpoint d tail rfl rfl
    · rintro rfl hhead
      obtain ⟨tail, rfl⟩ := List.head?_eq_some_iff.1 hhead
      exact hcomment tail rfl rfl
    · exact fun h91 ↦ absurd h91 hbracket

theorem reads_of_readPiece {line : Nat} {b : UInt8} {bs : List UInt8} {p : Piece}
    (h : readPiece line b bs = .ok p) : Reads (b :: bs) p.token? p.rest := by
  by_cases hmark : StartsMark b
  · exact reads_of_readMark hmark (readPiece_eq_readMark hmark line bs ▸ h)
  rw [readPiece.eq_def] at h
  split_ifs at h with hend hspace hletter hdigit hquote
  · cases h
    exact .lineEnd hend
  · cases h
    exact .space (by simpa using hend) hspace
  · cases h
    exact .name hletter
  · obtain ⟨_, hread, hp⟩ := Scan.bind_eq_ok_iff.1 h
    cases hp
    exact reads_of_readNumeral (.inl hdigit) hread
  · simp only [Bool.or_eq_true, decide_eq_true_eq] at hquote
    have hq : b ≠ 92 := by rcases hquote with rfl | rfl <;> decide
    obtain ⟨⟨line', text, r⟩, hbody, hp⟩ := Scan.bind_eq_ok_iff.1 h
    obtain ⟨body, hquoted, rfl⟩ := quoted_of_quotedBody hq hbody
    cases hp
    have hbody : ((b :: (body.reverse ++ [b])).drop 1).reverse.drop 1 = body := by simp
    simpa [Piece.token?, Piece.rest, hbody] using Reads.string (.quoted hquote hquoted)
  · exact absurd ⟨by simpa using hspace, by simpa using hletter, by simpa using hdigit,
      by simpa using hquote⟩ hmark

theorem exists_readPiece_of_spells {b : UInt8} {bs body r : List UInt8}
    (h : Spells lineFeed (b :: bs) body r) (line : Nat) :
    ∃ p, readPiece line b bs = .ok p ∧ p.token? = some (.str ⟨body.toArray⟩) ∧ p.rest = r := by
  cases h with
  | quoted hq h =>
    have hbackslash : b ≠ 92 := by rcases hq with rfl | rfl <;> decide
    obtain ⟨line', hbody⟩ := h.quotedBody_eq hbackslash (Nat.lt_succ_self _) line [b]
    have hbytes : ((b :: (body.reverse ++ [b])).drop 1).reverse.drop 1 = body := by simp
    refine ⟨.lexeme ⟨.str ⟨body.toArray⟩, line', collect (b :: (body.reverse ++ [b]))⟩ r, ?_,
      rfl, rfl⟩
    rcases hq with rfl | rfl
    all_goals
      refine Scan.bind_eq_ok_iff.2 ⟨_, hbody, ?_⟩
      dsimp only
      rw [hbytes]
      rfl
  | @long level _ _ _ _ hopen h =>
    obtain ⟨line', hlong⟩ := h.readLong_eq "string" line
    have hbytes : collect body.reverse = ⟨body.toArray⟩ := by rw [collect, List.reverse_reverse]
    let bracket (c : UInt8) := c :: List.replicate level 61 ++ [c]
    refine ⟨.lexeme ⟨.str (collect body.reverse), line',
      collect (bracket 93 ++ body.reverse ++ bracket 91)⟩ r, ?_, by rw [← hbytes]; rfl, rfl⟩
    rw [readPiece_eq_readMark startsMark_bracket, readMark, hopen]
    exact Scan.bind_eq_ok_iff.2 ⟨_, hlong, rfl⟩

theorem StartsSymbol.readMark_eq {b : UInt8} {bs : List UInt8} (h : StartsSymbol b bs)
    (line : Nat) :
    readMark line b bs =
      .ok (.lexeme ⟨.symbol (readSymbol b bs).1, line, .empty⟩ (readSymbol b bs).2) := by
  unfold readMark
  split
  case h_1 => exact absurd rfl (h.not_comment rfl)
  case h_2 => exact absurd rfl (h.not_comment rfl)
  case h_3 =>
    obtain ⟨hopen, hsign⟩ := h.not_long rfl
    have hsigns : bs.takeWhile (· = 61) = [] := by
      rcases bs with _ | ⟨c, bs⟩
      · rfl
      · exact List.takeWhile_cons_of_neg (by simpa using hsign)
    rw [hopen, hsigns]
    rfl
  case h_4 d _ =>
    rw [if_neg fun hd ↦ h.not_numeral (.inr ⟨rfl, d, rfl, hd⟩)]
    rfl
  case h_5 => rfl

theorem Reads.readPiece_eq {b : UInt8} {bs r : List UInt8} {t : Option Token}
    (h : Reads (b :: bs) t r) (line : Nat) :
    ∃ p, readPiece line b bs = .ok p ∧ p.token? = t ∧ p.rest = r := by
  cases h with
  | lineEnd hend => exact ⟨_, by rw [readPiece.eq_def, if_pos hend], rfl, rfl⟩
  | space hend h =>
    exact ⟨_, by rw [readPiece.eq_def, hend, if_neg Bool.false_ne_true, if_pos h], rfl, rfl⟩
  | @lineComment bs h =>
    refine ⟨.gap line (skipComment bs), ?_, rfl, rfl⟩
    rw [readPiece_eq_readMark startsMark_minus]
    by_cases hbracket : ∃ r, bs = 91 :: r
    · obtain ⟨r, rfl⟩ := hbracket
      rw [readMark, h r rfl, skipComment_bracket]
    · rw [readMark]
      exact fun r hr ↦ hbracket ⟨r, hr⟩
  | longComment hopen h =>
    obtain ⟨line', hlong⟩ := h.readLong_eq "comment" line
    refine ⟨.gap line' r, ?_, rfl, rfl⟩
    rw [readPiece_eq_readMark startsMark_minus, readMark, hopen]
    exact Scan.bind_eq_ok_iff.2 ⟨_, hlong, rfl⟩
  | name h =>
    have hspace := not_isSpace_of_isLetter h
    refine ⟨?piece, ?read, ?token, ?rest⟩
    case read =>
      rw [readPiece.eq_def, not_isLineEnd_of_not_isSpace hspace, hspace, if_neg Bool.false_ne_true,
        if_neg Bool.false_ne_true, if_pos h]
    case token => rfl
    case rest => rfl
  | @numeral _ _ n hb h =>
    have hread : readNumeral line b bs = .ok _ := readNumeral_eq_ok_iff.2 ⟨n, h, rfl, rfl⟩
    refine ⟨.lexeme ⟨numeralToken _, line, collect (numeralText b bs).1⟩ (numeralText b bs).2, ?_,
      rfl, rfl⟩
    rcases hb with hdigit | ⟨rfl, d, hd, hdigit⟩
    · have hspace := not_isSpace_of_isDigit hdigit
      rw [readPiece.eq_def, not_isLineEnd_of_not_isSpace hspace.1, hspace.1, hspace.2,
        if_pos hdigit]
      exact Scan.bind_eq_ok_iff.2 ⟨_, hread, rfl⟩
    · obtain ⟨tail, rfl⟩ := List.head?_eq_some_iff.1 hd
      rw [readPiece_eq_readMark startsMark_point, readMark, if_pos hdigit]
      exact Scan.bind_eq_ok_iff.2 ⟨_, hread, rfl⟩
  | string h => exact exists_readPiece_of_spells h line
  | symbol h =>
    exact ⟨_, (readPiece_eq_readMark h.startsMark line bs).trans (h.readMark_eq line), rfl, rfl⟩

theorem length_readSymbol_le (b : UInt8) (bs : List UInt8) :
    (readSymbol b bs).2.length ≤ bs.length := by
  unfold readSymbol
  split <;> simp only [List.length_cons] <;> omega

theorem Reads.length_lt {bs r : List UInt8} {t : Option Token} (h : Reads bs t r) :
    r.length < bs.length := by
  cases h with
  | lineEnd => exact Nat.lt_succ_of_le (length_afterLineEnd_le _ _)
  | space => exact Nat.lt_succ_self _
  | lineComment =>
    exact Nat.lt_succ_of_le (Nat.le_succ_of_le (List.length_dropWhile_le _ _))
  | longComment hopen h =>
    have hopened := length_lt_of_dropWhile_eq (openLong?_eq_some_iff.1 hopen).2
    have hbody := h.length_lt
    simp only [List.length_cons]
    omega
  | name => exact Nat.lt_succ_of_le (List.length_dropWhile_le _ _)
  | numeral => exact Nat.lt_succ_of_le (length_numeralText_le _ _)
  | string h => exact h.length_lt
  | symbol => exact Nat.lt_succ_of_le (length_readSymbol_le _ _)

/-- There is one way to read a piece. -/
theorem Reads.unique {bs r r' : List UInt8} {t t' : Option Token} (h : Reads bs t r)
    (h' : Reads bs t' r') : t = t' ∧ r = r' := by
  rcases bs with _ | ⟨b, bs⟩
  · exact nomatch h
  · obtain ⟨p, hp, rfl, rfl⟩ := h.readPiece_eq 1
    obtain ⟨p', hp', rfl, rfl⟩ := h'.readPiece_eq 1
    cases hp.symm.trans hp'
    exact ⟨rfl, rfl⟩

/-! ### Chunks -/

/-- A token, and the input at which it starts. -/
structure Placed where
  token : Token
  input : List UInt8

/-- All of an input, with the tokens in it. -/
inductive Lexes : List UInt8 → List Placed → Prop
  | nil : Lexes [] []
  | gap {bs r : List UInt8} {ps : List Placed} (h : Reads bs none r) (hr : Lexes r ps) : Lexes bs ps
  | token {bs r : List UInt8} {t : Token} {ps : List Placed} (h : Reads bs (some t) r)
      (hr : Lexes r ps) : Lexes bs (⟨t, bs⟩ :: ps)

theorem lexes_of_lexFrom {n line : Nat} {bs : List UInt8} {ls : List Lexeme}
    (h : lexFrom n line bs = (ls, none)) :
    ∃ ps, Lexes bs ps ∧ ls.map Lexeme.token = ps.map Placed.token ++ [.eof] := by
  induction n generalizing line bs ls with
  | zero => exact nomatch h
  | succ n ih =>
    rcases bs with _ | ⟨b, bs⟩
    · cases h
      exact ⟨[], .nil, rfl⟩
    rw [lexFrom] at h
    split at h
    case h_1 => exact nomatch h
    case h_2 line' r hgap =>
      obtain ⟨ps, hps, htokens⟩ := ih h
      exact ⟨ps, .gap (reads_of_readPiece hgap) hps, htokens⟩
    case h_3 l r hlexeme =>
      obtain ⟨rfl, hnone⟩ := Prod.mk.inj h
      obtain ⟨ps, hps, htokens⟩ := ih (Prod.ext rfl hnone)
      exact ⟨_, .token (reads_of_readPiece hlexeme) hps, congrArg (l.token :: ·) htokens⟩

theorem Lexes.lexFrom_eq {bs : List UInt8} {ps : List Placed} (h : Lexes bs ps) {n : Nat}
    (hn : bs.length < n) (line : Nat) :
    ∃ ls, lexFrom n line bs = (ls, none) ∧
      ls.map Lexeme.token = ps.map Placed.token ++ [.eof] := by
  induction h generalizing n line with
  | nil =>
    obtain ⟨n, rfl⟩ := Nat.exists_eq_add_one.2 (Nat.zero_lt_of_lt hn)
    exact ⟨_, rfl, rfl⟩
  | @gap bs r ps h _ ih =>
    obtain ⟨n, rfl⟩ := Nat.exists_eq_add_one.2 (Nat.zero_lt_of_lt hn)
    have hr : r.length < n := Nat.lt_of_lt_of_le h.length_lt (Nat.le_of_lt_succ hn)
    rcases bs with _ | ⟨b, bs⟩
    · exact nomatch h
    obtain ⟨_ | l, hp, htoken, rfl⟩ := h.readPiece_eq line
    · obtain ⟨ls, hls, htokens⟩ := ih hr _
      exact ⟨ls, by rw [lexFrom, hp]; exact hls, htokens⟩
    · exact nomatch htoken
  | @token bs r t ps h _ ih =>
    obtain ⟨n, rfl⟩ := Nat.exists_eq_add_one.2 (Nat.zero_lt_of_lt hn)
    have hr : r.length < n := Nat.lt_of_lt_of_le h.length_lt (Nat.le_of_lt_succ hn)
    rcases bs with _ | ⟨b, bs⟩
    · exact nomatch h
    obtain ⟨_ | ⟨l, r⟩, hp, htoken, rfl⟩ := h.readPiece_eq line
    · exact nomatch htoken
    · obtain ⟨ls, hls, htokens⟩ := ih hr l.line
      cases htoken
      refine ⟨l :: ls, ?_, congrArg (l.token :: ·) htokens⟩
      rw [Piece.rest] at hls
      rw [lexFrom, hp]
      simp only [hls]

/-- The tokens of a chunk, without the mark of its end, if the whole chunk can be read. -/
def tokens? (source : ByteArray) : Option (List Token) :=
  match lex source with
  | (ls, none) => some (ls.map Lexeme.token).dropLast
  | (_, some _) => none

theorem tokens?_eq_some_iff {source : ByteArray} {ts : List Token} :
    tokens? source = some ts ↔ ∃ ps, Lexes source.toList ps ∧ ps.map Placed.token = ts := by
  constructor
  · intro h
    rw [tokens?] at h
    split at h
    case h_1 ls hls =>
      cases h
      obtain ⟨ps, hps, htokens⟩ := lexes_of_lexFrom hls
      exact ⟨ps, hps, by rw [htokens, List.dropLast_concat]⟩
    case h_2 => exact nomatch h
  · rintro ⟨ps, hps, rfl⟩
    have hsize : source.toList.length < source.size + 1 := by
      rw [Text.toList_eq_data_toList]
      exact Nat.lt_succ_self _
    obtain ⟨ls, hls, htokens⟩ := hps.lexFrom_eq hsize 1
    rw [tokens?, lex, hls]
    simp [htokens]

theorem tokens?_of_lexFrom (n line : Nat) {source : ByteArray} {ts : List Token}
    (htokens : (lexFrom n line source.toList).1.map Lexeme.token = ts ++ [.eof])
    (hnone : (lexFrom n line source.toList).2 = none) : tokens? source = some ts := by
  obtain ⟨ps, hps, htokens'⟩ := lexes_of_lexFrom (Prod.ext rfl hnone)
  exact tokens?_eq_some_iff.2 ⟨ps, hps, List.append_cancel_right (htokens'.symm.trans htokens)⟩

/-- Whether an input can be read to its end does not depend on whether its first piece is taken. -/
theorem Reads.exists_lexes_iff {bs r : List UInt8} {t : Option Token} (h : Reads bs t r) :
    (∃ ps, Lexes bs ps) ↔ ∃ ps, Lexes r ps := by
  constructor
  · rintro ⟨ps, hps⟩
    cases hps with
    | nil => exact nomatch h
    | gap h' hr => exact ⟨_, (h.unique h').2 ▸ hr⟩
    | token h' hr => exact ⟨_, (h.unique h').2 ▸ hr⟩
  · rintro ⟨ps, hps⟩
    cases t with
    | none => exact ⟨_, .gap h hps⟩
    | some t => exact ⟨_, .token h hps⟩

end MacroStream.Script.Lexer
