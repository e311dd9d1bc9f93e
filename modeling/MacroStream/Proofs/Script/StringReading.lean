import Mathlib.Data.List.TakeWhile
import MacroStream.Script.Lexer

/-!
# How strings are read

The lexer goes through a string with a number that bounds how many steps there may be, with the line
that it is on, and with what it has read so far. None of them has a say in what a string means. Here
`Quoted` and `Long` say what is a string in quotes, and what is a long bracket; they are about the
input, the string and the rest alone. The lexer reads a string exactly if there is one, whatever the
line and the number are, as long as the number is larger than the length of the input. What the line
ends in a string add to it is left open: for the lexer it is a line feed (`lineFeed`).

An escape is known by the bytes that it takes: the same bytes are read as the same escape wherever
they stand, but for decimal ones, which end before the first byte that is no digit.
-/

namespace MacroStream.Script.Lexer

theorem Scan.bind_eq_ok_iff {α β : Type} {x : Scan α} {f : α → Scan β} {b : β} :
    x >>= f = .ok b ↔ ∃ a, x = .ok a ∧ f a = .ok b := by
  rcases x with e | a
  · simp [bind, Except.bind]
  · simp [bind, Except.bind]

/-! ### Line ends and white space -/

theorem isLineEnd_iff {b : UInt8} : isLineEnd b = true ↔ b = 10 ∨ b = 13 := by
  rw [isLineEnd, Bool.or_eq_true, decide_eq_true_eq, decide_eq_true_eq]

theorem isSpace_of_isLineEnd {b : UInt8} (h : isLineEnd b = true) : Num.isSpace b = true := by
  rcases isLineEnd_iff.1 h with rfl | rfl <;> rfl

theorem length_afterLineEnd_le (b : UInt8) (bs : List UInt8) :
    (afterLineEnd b bs).length ≤ bs.length := by
  rcases bs with _ | ⟨c, bs⟩
  · exact Nat.le_refl _
  · rw [afterLineEnd]
    split
    · exact Nat.le_succ _
    · exact Nat.le_refl _

/-- A line end of two bytes is white space all the same. -/
theorem dropWhile_isSpace_afterLineEnd (b : UInt8) (bs : List UInt8) :
    (afterLineEnd b bs).dropWhile Num.isSpace = bs.dropWhile Num.isSpace := by
  rcases bs with _ | ⟨c, bs⟩
  · rfl
  · rw [afterLineEnd]
    split
    case isTrue hc =>
      rw [Bool.and_eq_true] at hc
      rw [List.dropWhile_cons_of_pos (isSpace_of_isLineEnd hc.1)]
    case isFalse => rfl

theorem skipSpace_snd {n : Nat} {bs : List UInt8} (hn : bs.length < n) (line : Nat) :
    (skipSpace n line bs).2 = bs.dropWhile Num.isSpace := by
  induction n generalizing line bs with
  | zero => exact absurd hn (Nat.not_lt_zero _)
  | succ n ih =>
    rcases bs with _ | ⟨b, bs⟩
    · rfl
    · have hbs : bs.length < n := Nat.lt_of_succ_lt_succ hn
      rw [skipSpace]
      split
      case isTrue hb =>
        have hafter := Nat.lt_of_le_of_lt (length_afterLineEnd_le b bs) hbs
        rw [ih hafter, dropWhile_isSpace_afterLineEnd,
          List.dropWhile_cons_of_pos (isSpace_of_isLineEnd hb)]
      case isFalse =>
        split
        case isTrue hb => rw [ih hbs, List.dropWhile_cons_of_pos hb]
        case isFalse hb => rw [List.dropWhile_cons_of_neg hb]

/-! ### Escapes -/

/-- A byte that means nothing special inside quotes. -/
structure Plain (b : UInt8) : Prop where
  not_lineEnd : isLineEnd b = false
  ne_backslash : b ≠ 92
  ne_double : b ≠ 34
  ne_single : b ≠ 39

theorem plain_of_isHexDigit {b : UInt8} (h : Num.isHexDigit b = true) : Plain b := by
  have hne (c : UInt8) (hc : Num.isHexDigit c = false) : b ≠ c := by
    rintro rfl
    simp [hc] at h
  have h10 : b ≠ 10 := hne 10 (by decide)
  have h13 : b ≠ 13 := hne 13 (by decide)
  exact ⟨by simp [isLineEnd, h10, h13], hne 92 (by decide), hne 34 (by decide), hne 39 (by decide)⟩

theorem isHexDigit_of_isDigit {b : UInt8} (h : Num.isDigit b = true) : Num.isHexDigit b = true := by
  simp only [Num.isDigit, Bool.and_eq_true, decide_eq_true_eq, UInt8.le_iff_toNat_le] at h
  have h9 : b.toNat ≤ 57 := h.2
  simp only [Num.isHexDigit, Num.digitValue, Num.isDigit, decide_eq_true_eq,
    UInt8.le_iff_toNat_le, h, decide_true, Bool.and_self, if_true]
  omega

theorem hexEscape_eq_ok {line : Nat} {text bs r : List UInt8} {c : UInt8}
    (h : hexEscape line text bs = .ok (c, r)) :
    ∃ taken, bs = taken ++ r ∧ (∀ b ∈ taken, Plain b) ∧
      ∀ line' text' more, hexEscape line' text' (taken ++ more) = .ok (c, more) := by
  rcases bs with _ | ⟨a, _ | ⟨b, bs⟩⟩
  · exact nomatch h
  · simp only [hexEscape] at h
    split at h <;> exact nomatch h
  · simp only [hexEscape] at h
    split at h
    case isFalse => exact nomatch h
    case isTrue ha =>
      split at h
      case isFalse => exact nomatch h
      case isTrue hb =>
        obtain ⟨rfl, rfl⟩ := Prod.mk.inj (Except.ok.inj h)
        refine ⟨[a, b], rfl, ?_, fun line' text' more ↦ by simp [hexEscape, ha, hb]⟩
        simp [plain_of_isHexDigit ha, plain_of_isHexDigit hb]

theorem codeDigits_eq_ok {line acc : Nat} {text bs r : List UInt8} {n : Nat}
    (h : codeDigits line acc text bs = .ok (n, r)) :
    ∃ taken, bs = taken ++ r ∧ (∀ b ∈ taken, Plain b) ∧
      ∀ line' text' more, codeDigits line' acc text' (taken ++ more) = .ok (n, more) := by
  induction bs generalizing acc text with
  | nil => exact nomatch h
  | cons b bs ih =>
    rw [codeDigits] at h
    split at h
    case isTrue hb =>
      split at h
      case isFalse => exact nomatch h
      case isTrue hacc =>
        obtain ⟨taken, rfl, hplain, hread⟩ := ih h
        refine ⟨b :: taken, rfl, List.forall_mem_cons.2 ⟨plain_of_isHexDigit hb, hplain⟩, ?_⟩
        intro line' text' more
        rw [List.cons_append, codeDigits, if_pos hb, if_pos hacc, hread]
    case isFalse hb =>
      split at h
      case isFalse => exact nomatch h
      case isTrue hclose =>
        subst hclose
        obtain ⟨rfl, rfl⟩ := Prod.mk.inj (Except.ok.inj h)
        refine ⟨[125], rfl, by simpa using ⟨by decide, by decide, by decide, by decide⟩, ?_⟩
        intro line' text' more
        rw [List.cons_append, codeDigits, if_neg hb, if_pos rfl, List.nil_append]

theorem codeEscape_eq_ok {line : Nat} {text bs r cs : List UInt8}
    (h : codeEscape line text bs = .ok (cs, r)) :
    ∃ taken, bs = taken ++ r ∧ (∀ b ∈ taken, Plain b) ∧
      ∀ line' text' more, codeEscape line' text' (taken ++ more) = .ok (cs, more) := by
  unfold codeEscape at h
  split at h
  case h_1 a bs =>
    by_cases ha : Num.isHexDigit a = true
    · rw [if_pos ha, Scan.bind_eq_ok_iff] at h
      obtain ⟨⟨n, r'⟩, hdigits, hcs⟩ := h
      obtain ⟨rfl, rfl⟩ := Prod.mk.inj (Except.ok.inj hcs)
      obtain ⟨taken, rfl, hplain, hread⟩ := codeDigits_eq_ok hdigits
      refine ⟨123 :: a :: taken, rfl, ?_, fun line' text' more ↦ ?_⟩
      · have hbrace : Plain 123 := ⟨by decide, by decide, by decide, by decide⟩
        simpa [hbrace, plain_of_isHexDigit ha] using hplain
      · rw [List.cons_append, List.cons_append, codeEscape, if_pos ha, Scan.bind_eq_ok_iff]
        exact ⟨_, hread .., rfl⟩
    · rw [if_neg ha] at h
      exact nomatch h
  case h_2 => exact nomatch h
  case h_3 => exact nomatch h

theorem decimalEscape_eq_ok {line : Nat} {text bs r : List UInt8} {c : UInt8}
    (h : decimalEscape line text bs = .ok (c, r)) :
    ∃ ds, bs = ds ++ r ∧ (bs.take 3).takeWhile Num.isDigit = ds ∧ (∀ b ∈ ds, Plain b) ∧
      ∀ line' text' more, ((ds ++ more).take 3).takeWhile Num.isDigit = ds →
        decimalEscape line' text' (ds ++ more) = .ok (c, more) := by
  rw [decimalEscape] at h
  split at h
  case isFalse => exact nomatch h
  case isTrue hn =>
    obtain ⟨rfl, rfl⟩ := Prod.mk.inj (Except.ok.inj h)
    have htaken : (bs.take 3).takeWhile Num.isDigit <+: bs :=
      (List.takeWhile_prefix _).trans (List.take_prefix 3 bs)
    refine ⟨_, (List.prefix_iff_eq_append.1 htaken).symm, rfl, fun b hb ↦ ?_, ?_⟩
    · exact plain_of_isHexDigit (isHexDigit_of_isDigit (List.mem_takeWhile_imp hb))
    · intro line' text' more hmore
      rw [decimalEscape, hmore, if_pos hn, List.drop_left]

/-! ### Quoted strings -/

theorem not_lineEnd_of_simpleEscape? {e c : UInt8} (h : simpleEscape? e = some c) :
    isLineEnd e = false ∧ Num.isDigit e = false := by
  unfold simpleEscape? at h
  split at h
  all_goals first | exact ⟨rfl, rfl⟩ | exact nomatch h

/-- An escape behind its backslash, the first byte of which is `e` and no line end: the line behind
it, the bytes that it means, and the rest. -/
def readEscape (line : Nat) (text : List UInt8) (e : UInt8) (r : List UInt8) :
    Scan (Nat × List UInt8 × List UInt8) :=
  match simpleEscape? e with
  | some c => .ok (line, [c], r)
  | none =>
    if e = 120 then do
      let (c, r) ← hexEscape line (e :: 92 :: text) r
      return (line, [c], r)
    else if e = 117 then do
      let (cs, r) ← codeEscape line (e :: 92 :: text) r
      return (line, cs, r)
    else if e = 122 then
      let (line, r) := skipSpace (r.length + 1) line r
      .ok (line, [], r)
    else if Num.isDigit e then do
      let (c, r) ← decimalEscape line (92 :: text) (e :: r)
      return (line, [c], r)
    else escapeFault line "invalid escape sequence" (92 :: text) (e :: r)

theorem quotedBody_lineEnd {q e : UInt8} (hq : q ≠ 92) (hend : isLineEnd e = true) (n line : Nat)
    (text r : List UInt8) :
    quotedBody q (n + 1) line text (92 :: e :: r) =
      quotedBody q n (line + 1) (10 :: text) (afterLineEnd e r) := by
  have hbackslash : isLineEnd 92 = false := by decide
  have hsimple : simpleEscape? e = none := by
    cases hsome : simpleEscape? e with
    | none => rfl
    | some c => exact absurd hend (by simp [(not_lineEnd_of_simpleEscape? hsome).1])
  rw [quotedBody, if_neg hq.symm, hbackslash, if_neg Bool.false_ne_true, if_pos rfl, hsimple]
  exact if_pos hend

theorem quotedBody_escape {q e : UInt8} (hq : q ≠ 92) (hend : isLineEnd e = false) (n line : Nat)
    (text r : List UInt8) :
    quotedBody q (n + 1) line text (92 :: e :: r) =
      readEscape line text e r >>= fun (line, cs, r) ↦
        quotedBody q n line (cs.reverse ++ text) r := by
  have hbackslash : isLineEnd 92 = false := by decide
  rw [quotedBody, if_neg hq.symm, hbackslash, if_neg Bool.false_ne_true, if_pos rfl, readEscape]
  cases simpleEscape? e with
  | some c => rfl
  | none =>
    dsimp only
    rw [hend, if_neg Bool.false_ne_true]
    split_ifs with hx hu hz hd
    · cases hexEscape line (e :: 92 :: text) r <;> rfl
    · cases codeEscape line (e :: 92 :: text) r <;> rfl
    · rfl
    · cases decimalEscape line (92 :: text) (e :: r) <;> rfl
    · rfl

/-- What stands behind a backslash in quotes, other than a line end: the input, the bytes that it
means, and the rest. -/
inductive Escape : List UInt8 → List UInt8 → List UInt8 → Prop
  | simple {e c : UInt8} {r : List UInt8} (h : simpleEscape? e = some c) : Escape (e :: r) [c] r
  | hex {line : Nat} {c : UInt8} {text bs r : List UInt8}
      (h : hexEscape line text bs = .ok (c, r)) : Escape (120 :: bs) [c] r
  | code {line : Nat} {text bs cs r : List UInt8} (h : codeEscape line text bs = .ok (cs, r)) :
      Escape (117 :: bs) cs r
  | space {r : List UInt8} : Escape (122 :: r) [] (r.dropWhile Num.isSpace)
  | decimal {line : Nat} {e c : UInt8} {text bs r : List UInt8} (he : Num.isDigit e = true)
      (h : decimalEscape line text (e :: bs) = .ok (c, r)) : Escape (e :: bs) [c] r

theorem escape_of_readEscape {line line' : Nat} {text cs r r' : List UInt8} {e : UInt8}
    (h : readEscape line text e r = .ok (line', cs, r')) : Escape (e :: r) cs r' := by
  rw [readEscape] at h
  split at h
  case h_1 c hc =>
    cases h
    exact .simple hc
  case h_2 =>
    split_ifs at h with hx hu hz hd
    · subst hx
      obtain ⟨_, hhex, hcs⟩ := Scan.bind_eq_ok_iff.1 h
      cases hcs
      exact .hex hhex
    · subst hu
      obtain ⟨_, hcode, hcs⟩ := Scan.bind_eq_ok_iff.1 h
      cases hcs
      exact .code hcode
    · subst hz
      cases h
      rw [skipSpace_snd (Nat.lt_succ_self _)]
      exact .space
    · obtain ⟨_, hdecimal, hcs⟩ := Scan.bind_eq_ok_iff.1 h
      cases hcs
      exact .decimal hd hdecimal
    · exact nomatch h

theorem Escape.readEscape_eq {e : UInt8} {bs cs r : List UInt8} (h : Escape (e :: bs) cs r)
    (line : Nat) (text : List UInt8) :
    ∃ line', readEscape line text e bs = .ok (line', cs, r) := by
  cases h with
  | simple h => exact ⟨line, by rw [readEscape, h]⟩
  | hex h =>
    obtain ⟨taken, rfl, -, hread⟩ := hexEscape_eq_ok h
    exact ⟨line, Scan.bind_eq_ok_iff.2 ⟨_, hread .., rfl⟩⟩
  | code h =>
    obtain ⟨taken, rfl, -, hread⟩ := codeEscape_eq_ok h
    exact ⟨line, Scan.bind_eq_ok_iff.2 ⟨_, hread .., rfl⟩⟩
  | space =>
    refine ⟨(skipSpace (bs.length + 1) line bs).1, ?_⟩
    rw [← skipSpace_snd (Nat.lt_succ_self _) line]
    rfl
  | decimal hdigit h =>
    have hne (c : UInt8) (hc : Num.isDigit c = false) : e ≠ c := by
      rintro rfl
      simp [hc] at hdigit
    have hsimple : simpleEscape? e = none := by
      cases hsome : simpleEscape? e with
      | some c => exact absurd hdigit (by simp [(not_lineEnd_of_simpleEscape? hsome).2])
      | none => rfl
    obtain ⟨ds, hds, htake, -, hread⟩ := decimalEscape_eq_ok h
    have hdecimal := hread line (92 :: text) r (hds ▸ htake)
    rw [← hds] at hdecimal
    refine ⟨line, ?_⟩
    simp [readEscape, hsimple, hne 120 rfl, hne 117 rfl, hne 122 rfl, hdigit, hdecimal,
      bind, Except.bind, pure, Except.pure]

theorem Escape.not_isLineEnd {e : UInt8} {bs cs r : List UInt8} (h : Escape (e :: bs) cs r) :
    isLineEnd e = false := by
  cases h with
  | simple h => exact (not_lineEnd_of_simpleEscape? h).1
  | decimal hdigit _ => exact (plain_of_isHexDigit (isHexDigit_of_isDigit hdigit)).not_lineEnd
  | _ => rfl

/-- There is one way to read an escape. -/
theorem Escape.unique {bs cs cs' r r' : List UInt8} (h : Escape bs cs r) (h' : Escape bs cs' r') :
    cs = cs' ∧ r = r' := by
  rcases bs with _ | ⟨e, bs⟩
  · exact nomatch h
  · obtain ⟨line, hread⟩ := h.readEscape_eq 1 []
    obtain ⟨line', hread'⟩ := h'.readEscape_eq 1 []
    cases hread.symm.trans hread'
    exact ⟨rfl, rfl⟩

theorem Escape.length_lt {bs cs r : List UInt8} (h : Escape bs cs r) : r.length < bs.length := by
  cases h with
  | simple => exact Nat.lt_succ_self _
  | hex h =>
    obtain ⟨taken, rfl, -⟩ := hexEscape_eq_ok h
    simp only [List.length_cons, List.length_append]
    omega
  | code h =>
    obtain ⟨taken, rfl, -⟩ := codeEscape_eq_ok h
    simp only [List.length_cons, List.length_append]
    omega
  | space => exact Nat.lt_succ_of_le (List.length_dropWhile_le _ _)
  | decimal hdigit h =>
    -- The first byte is a digit, so the escape takes it at least.
    obtain ⟨ds, hds, htake, -⟩ := decimalEscape_eq_ok h
    rw [List.take_succ_cons, List.takeWhile_cons_of_pos hdigit] at htake
    rw [hds, ← htake, List.cons_append, List.length_cons, List.length_append]
    omega

/-- The bytes that a line end adds to a string, by its first byte and what follows that. -/
abbrev LineEndBytes := UInt8 → List UInt8 → List UInt8

/-- What a line end adds for the lexer: a line feed, whichever way it is written. -/
def lineFeed : LineEndBytes := fun _ _ ↦ [10]

/-- A string behind its opening quote `q`, when line ends add `ends`: the input, the string, and the
rest. -/
inductive Quoted (ends : LineEndBytes) (q : UInt8) :
    List UInt8 → List UInt8 → List UInt8 → Prop
  | close {r : List UInt8} : Quoted ends q (q :: r) [] r
  | byte {b : UInt8} {bs body r : List UInt8} (hq : b ≠ q) (hend : isLineEnd b = false)
      (hescape : b ≠ 92) (h : Quoted ends q bs body r) : Quoted ends q (b :: bs) (b :: body) r
  | lineEnd {e : UInt8} {bs body r : List UInt8} (hend : isLineEnd e = true)
      (h : Quoted ends q (afterLineEnd e bs) body r) :
      Quoted ends q (92 :: e :: bs) (ends e bs ++ body) r
  | escape {bs bs' cs body r : List UInt8} (he : Escape bs cs bs') (h : Quoted ends q bs' body r) :
      Quoted ends q (92 :: bs) (cs ++ body) r

theorem quotedBody_of_ne {q b : UInt8} (hq : b ≠ q) (hend : isLineEnd b = false) (hescape : b ≠ 92)
    (n line : Nat) (text bs : List UInt8) :
    quotedBody q (n + 1) line text (b :: bs) = quotedBody q n line (b :: text) bs := by
  rw [quotedBody.eq_def]
  simp [hq, hend, hescape]

theorem quoted_of_quotedBody {q : UInt8} (hq : q ≠ 92) {n line line' : Nat}
    {text bs text' r : List UInt8} (h : quotedBody q n line text bs = .ok (line', text', r)) :
    ∃ body, Quoted lineFeed q bs body r ∧ text' = q :: (body.reverse ++ text) := by
  induction n generalizing line text bs with
  | zero => exact nomatch h
  | succ n ih =>
    rcases bs with _ | ⟨b, bs⟩
    · exact nomatch h
    by_cases hclose : b = q
    · subst hclose
      unfold quotedBody at h
      rw [if_pos rfl] at h
      cases h
      exact ⟨[], .close, rfl⟩
    cases hend : isLineEnd b with
    | true =>
      unfold quotedBody at h
      simp [hclose, hend] at h
    | false =>
      by_cases hescape : b = 92
      · subst hescape
        rcases bs with _ | ⟨e, bs⟩
        · simp [quotedBody, hclose, hend] at h
        cases hend : isLineEnd e with
        | true =>
          rw [quotedBody_lineEnd hq hend] at h
          obtain ⟨body, hbody, rfl⟩ := ih h
          exact ⟨_, .lineEnd hend hbody, by simp [lineFeed]⟩
        | false =>
          rw [quotedBody_escape hq hend] at h
          obtain ⟨_, hread, hrest⟩ := Scan.bind_eq_ok_iff.1 h
          obtain ⟨body, hbody, rfl⟩ := ih hrest
          refine ⟨_, .escape (escape_of_readEscape hread) hbody, ?_⟩
          rw [List.reverse_append, List.append_assoc]
      · rw [quotedBody_of_ne hclose hend hescape] at h
        obtain ⟨body, hbody, rfl⟩ := ih h
        exact ⟨b :: body, .byte hclose hend hescape hbody, by simp⟩

theorem Quoted.quotedBody_eq {q : UInt8} (hq : q ≠ 92) {bs body r : List UInt8}
    (h : Quoted lineFeed q bs body r) {n : Nat} (hn : bs.length < n) (line : Nat)
    (text : List UInt8) :
    ∃ line', quotedBody q n line text bs = .ok (line', q :: (body.reverse ++ text), r) := by
  induction h generalizing n line text with
  | close =>
    obtain ⟨n, rfl⟩ := Nat.exists_eq_add_one.2 (Nat.zero_lt_of_lt hn)
    refine ⟨line, ?_⟩
    unfold quotedBody
    rw [if_pos rfl]
    rfl
  | byte hclose hend hescape _ ih =>
    obtain ⟨n, rfl⟩ := Nat.exists_eq_add_one.2 (Nat.zero_lt_of_lt hn)
    obtain ⟨line', hbody⟩ := ih (Nat.lt_of_succ_lt_succ hn) line (_ :: text)
    refine ⟨line', ?_⟩
    rw [quotedBody_of_ne hclose hend hescape, hbody, List.reverse_cons, List.append_assoc]
    rfl
  | @lineEnd e bs body r hend _ ih =>
    obtain ⟨n, rfl⟩ := Nat.exists_eq_add_one.2 (Nat.zero_lt_of_lt hn)
    have hlt : (afterLineEnd e bs).length < n :=
      (Nat.lt_succ_of_le (length_afterLineEnd_le e bs)).trans (Nat.lt_of_succ_lt_succ hn)
    obtain ⟨line', hbody⟩ := ih hlt (line + 1) (10 :: text)
    exact ⟨line', by rw [quotedBody_lineEnd hq hend, hbody]; simp [lineFeed]⟩
  | @escape bs bs' cs body r he _ ih =>
    obtain ⟨n, rfl⟩ := Nat.exists_eq_add_one.2 (Nat.zero_lt_of_lt hn)
    rcases bs with _ | ⟨e, bs⟩
    · exact nomatch he
    obtain ⟨line₁, hread⟩ := he.readEscape_eq line text
    obtain ⟨line', hbody⟩ :=
      ih (he.length_lt.trans (Nat.lt_of_succ_lt_succ hn)) line₁ (cs.reverse ++ text)
    refine ⟨line', ?_⟩
    rw [quotedBody_escape hq he.not_isLineEnd, hread, List.reverse_append, List.append_assoc]
    exact hbody

theorem Quoted.length_lt {ends : LineEndBytes} {q : UInt8} {bs body r : List UInt8}
    (h : Quoted ends q bs body r) : r.length < bs.length := by
  induction h with
  | close => exact Nat.lt_succ_self _
  | byte _ _ _ _ ih => exact Nat.lt_succ_of_lt ih
  | @lineEnd e bs _ _ _ _ ih =>
    exact Nat.lt_succ_of_lt (Nat.lt_succ_of_lt (ih.trans_le (length_afterLineEnd_le e bs)))
  | escape he _ ih => exact Nat.lt_succ_of_lt (ih.trans he.length_lt)

theorem Quoted.ne_nil {ends : LineEndBytes} {q : UInt8} {bs body r : List UInt8}
    (h : Quoted ends q bs body r) : bs ≠ [] :=
  List.ne_nil_of_length_pos (Nat.zero_lt_of_lt h.length_lt)

/-! ### Long brackets -/

theorem drop_length_takeWhile (p : UInt8 → Bool) (bs : List UInt8) :
    bs.drop (bs.takeWhile p).length = bs.dropWhile p := by
  have htaken := List.prefix_iff_eq_append.1 (List.takeWhile_prefix p (l := bs))
  exact List.append_cancel_left (htaken.trans List.takeWhile_append_dropWhile.symm)

theorem openLong?_eq_some_iff {bs r : List UInt8} {level : Nat} :
    openLong? bs = some (level, r) ↔
      (bs.takeWhile (· = 61)).length = level ∧ bs.dropWhile (· = 61) = 91 :: r := by
  rw [openLong?, drop_length_takeWhile]
  split <;> simp_all

theorem closeLong?_eq_some_iff {bs r : List UInt8} {level : Nat} :
    closeLong? level bs = some r ↔
      (bs.takeWhile (· = 61)).length = level ∧ bs.dropWhile (· = 61) = 93 :: r := by
  rw [closeLong?]
  split
  case isTrue h =>
    rw [← h, drop_length_takeWhile]
    split <;> simp_all
  case isFalse h => simp [h]

theorem length_lt_of_dropWhile_eq {p : UInt8 → Bool} {bs r : List UInt8} {c : UInt8}
    (h : bs.dropWhile p = c :: r) : r.length < bs.length := by
  have hle := List.length_dropWhile_le p bs
  rw [h, List.length_cons] at hle
  exact hle

/-- A long bracket up to its end, when line ends add `ends`: the input, the content, and the
rest. -/
inductive Bracketed (ends : LineEndBytes) (level : Nat) :
    List UInt8 → List UInt8 → List UInt8 → Prop
  | close {bs r : List UInt8} (h : closeLong? level bs = some r) :
      Bracketed ends level (93 :: bs) [] r
  | byte {b : UInt8} {bs body r : List UInt8} (hend : isLineEnd b = false)
      (hclose : b = 93 → closeLong? level bs = none) (h : Bracketed ends level bs body r) :
      Bracketed ends level (b :: bs) (b :: body) r
  | lineEnd {b : UInt8} {bs body r : List UInt8} (hend : isLineEnd b = true)
      (h : Bracketed ends level (afterLineEnd b bs) body r) :
      Bracketed ends level (b :: bs) (ends b bs ++ body) r

theorem longBody_of_lineEnd {b : UInt8} (hend : isLineEnd b = true) (what : String)
    (start level n line : Nat) (acc bs : List UInt8) :
    longBody what start level (n + 1) line acc (b :: bs) =
      longBody what start level n (line + 1) (10 :: acc) (afterLineEnd b bs) := by
  have hclose : b ≠ 93 := by
    rintro rfl
    exact nomatch hend
  rw [longBody, if_neg hclose, if_pos hend]

theorem longBody_of_not_close {b : UInt8} {level : Nat} {bs : List UInt8}
    (hend : isLineEnd b = false) (hclose : b = 93 → closeLong? level bs = none) (what : String)
    (start n line : Nat) (acc : List UInt8) :
    longBody what start level (n + 1) line acc (b :: bs) =
      longBody what start level n line (b :: acc) bs := by
  rw [longBody]
  split
  case isTrue hb => rw [hclose hb]
  case isFalse => rw [hend, if_neg Bool.false_ne_true]

theorem bracketed_of_longBody {what : String} {start level n line line' : Nat}
    {acc bs text r : List UInt8}
    (h : longBody what start level n line acc bs = .ok (text, line', r)) :
    ∃ body, Bracketed lineFeed level bs body r ∧ text = body.reverse ++ acc := by
  induction n generalizing line acc bs with
  | zero => exact nomatch h
  | succ n ih =>
    rcases bs with _ | ⟨b, bs⟩
    · exact nomatch h
    cases hend : isLineEnd b with
    | true =>
      rw [longBody_of_lineEnd hend] at h
      obtain ⟨body, hbody, rfl⟩ := ih h
      exact ⟨_, .lineEnd hend hbody, by simp [lineFeed]⟩
    | false =>
      by_cases hclose : b = 93 → closeLong? level bs = none
      · rw [longBody_of_not_close hend hclose] at h
        obtain ⟨body, hbody, rfl⟩ := ih h
        exact ⟨b :: body, .byte hend hclose hbody, by simp⟩
      · obtain ⟨rfl, hsome⟩ := Classical.not_imp.1 hclose
        obtain ⟨r', hclose⟩ := Option.ne_none_iff_exists'.1 hsome
        rw [longBody, if_pos rfl, hclose] at h
        cases h
        exact ⟨[], .close hclose, rfl⟩

theorem Bracketed.longBody_eq {level : Nat} {bs body r : List UInt8}
    (h : Bracketed lineFeed level bs body r) {n : Nat} (hn : bs.length < n) (what : String)
    (start line : Nat) (acc : List UInt8) :
    ∃ line', longBody what start level n line acc bs = .ok (body.reverse ++ acc, line', r) := by
  induction h generalizing n line acc with
  | close hclose =>
    obtain ⟨n, rfl⟩ := Nat.exists_eq_add_one.2 (Nat.zero_lt_of_lt hn)
    exact ⟨line, by rw [longBody, if_pos rfl, hclose]; rfl⟩
  | byte hend hclose _ ih =>
    obtain ⟨n, rfl⟩ := Nat.exists_eq_add_one.2 (Nat.zero_lt_of_lt hn)
    obtain ⟨line', hbody⟩ := ih (Nat.lt_of_succ_lt_succ hn) line (_ :: acc)
    refine ⟨line', ?_⟩
    rw [longBody_of_not_close hend hclose, hbody, List.reverse_cons, List.append_assoc]
    rfl
  | @lineEnd b bs _ _ hend _ ih =>
    obtain ⟨n, rfl⟩ := Nat.exists_eq_add_one.2 (Nat.zero_lt_of_lt hn)
    have hlt := Nat.lt_of_le_of_lt (length_afterLineEnd_le b bs) (Nat.lt_of_succ_lt_succ hn)
    obtain ⟨line', hbody⟩ := ih hlt (line + 1) (10 :: acc)
    exact ⟨line', by rw [longBody_of_lineEnd hend, hbody]; simp [lineFeed]⟩

theorem Bracketed.length_lt {ends : LineEndBytes} {level : Nat} {bs body r : List UInt8}
    (h : Bracketed ends level bs body r) : r.length < bs.length := by
  induction h with
  | close hclose =>
    exact Nat.lt_succ_of_lt (length_lt_of_dropWhile_eq (closeLong?_eq_some_iff.1 hclose).2)
  | byte _ _ _ ih => exact Nat.lt_succ_of_lt ih
  | @lineEnd b bs _ _ _ _ ih =>
    exact Nat.lt_succ_of_lt (ih.trans_le (length_afterLineEnd_le b bs))

/-- A long bracket behind its opening, when line ends add `ends`: the input, the content, and the
rest. Of a line end right behind the opening, the first byte that it adds is left out. -/
inductive Long (ends : LineEndBytes) (level : Nat) : List UInt8 → List UInt8 → List UInt8 → Prop
  | lineEnd {b : UInt8} {bs body r : List UInt8} (hend : isLineEnd b = true)
      (h : Bracketed ends level (afterLineEnd b bs) body r) :
      Long ends level (b :: bs) ((ends b bs).drop 1 ++ body) r
  | other {b : UInt8} {bs body r : List UInt8} (hend : isLineEnd b = false)
      (h : Bracketed ends level (b :: bs) body r) : Long ends level (b :: bs) body r

theorem long_of_readLong {what : String} {level line line' : Nat} {bs text r : List UInt8}
    (h : readLong what level line bs = .ok (text, line', r)) :
    Long lineFeed level bs text.reverse r := by
  rcases bs with _ | ⟨b, bs⟩
  · exact nomatch h
  rw [readLong] at h
  split at h
  case isTrue hend =>
    obtain ⟨body, hbody, rfl⟩ := bracketed_of_longBody h
    simpa [lineFeed] using Long.lineEnd hend hbody
  case isFalse hend =>
    obtain ⟨body, hbody, rfl⟩ := bracketed_of_longBody h
    simpa using Long.other (by simpa using hend) hbody

theorem Long.readLong_eq {level : Nat} {bs body r : List UInt8}
    (h : Long lineFeed level bs body r) (what : String) (line : Nat) :
    ∃ line', readLong what level line bs = .ok (body.reverse, line', r) := by
  cases h with
  | @lineEnd b bs body _ hend h =>
    have hlt := Nat.lt_succ_of_le (Nat.le_succ_of_le (length_afterLineEnd_le b bs))
    obtain ⟨line', hbody⟩ := h.longBody_eq hlt what line (line + 1) []
    exact ⟨line', by rw [readLong, if_pos hend]; simpa [lineFeed] using hbody⟩
  | @other b bs _ _ hend h =>
    obtain ⟨line', hbody⟩ := h.longBody_eq (Nat.lt_succ_self _) what line line []
    exact ⟨line', by rw [readLong, hend]; simpa using hbody⟩

theorem Long.length_lt {ends : LineEndBytes} {level : Nat} {bs body r : List UInt8}
    (h : Long ends level bs body r) : r.length < bs.length := by
  cases h with
  | @lineEnd b bs _ _ _ h =>
    exact Nat.lt_succ_of_lt (h.length_lt.trans_le (length_afterLineEnd_le b bs))
  | other _ h => exact h.length_lt

/-- A string of either kind, when line ends add `ends`: the input, the string, and the rest. -/
inductive Spells (ends : LineEndBytes) : List UInt8 → List UInt8 → List UInt8 → Prop
  | quoted {q : UInt8} {bs body r : List UInt8} (hq : q = 34 ∨ q = 39)
      (h : Quoted ends q bs body r) : Spells ends (q :: bs) body r
  | long {level : Nat} {bs bs' body r : List UInt8} (hopen : openLong? bs = some (level, bs'))
      (h : Long ends level bs' body r) : Spells ends (91 :: bs) body r

theorem Spells.length_lt {ends : LineEndBytes} {bs body r : List UInt8}
    (h : Spells ends bs body r) : r.length < bs.length := by
  cases h with
  | quoted _ h => exact Nat.lt_succ_of_lt h.length_lt
  | long hopen h =>
    have hopened := length_lt_of_dropWhile_eq (openLong?_eq_some_iff.1 hopen).2
    exact Nat.lt_succ_of_lt (h.length_lt.trans hopened)

end MacroStream.Script.Lexer
