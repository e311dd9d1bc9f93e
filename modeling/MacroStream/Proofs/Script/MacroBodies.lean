import MacroStream.Proofs.Script.ChunkStatements

/-!
# Macros that are function bodies

The text of a macro is put into its chunk as it is. Whether this makes it the body of the function
that the chunk declares is up to the text: one that ends this function early goes on in the chunk
itself, and this part of it runs when the macro is started.

`Parser.isBody` decides whether a text is by itself the body of a function without parameters. If it
is, then the readings of the text and of its chunk go side by side, so that the function ends where
it should (`Parser.row_of_readBody`). The chunk has its three statements then, and no others
(`exists_wraps_of_isBody`), and nothing of the macro runs when it is started
(`exists_init_of_isBody`).
-/

namespace MacroStream.Script

namespace Parser

/-! ### Texts that are function bodies -/

/-- What is left of the bound for the chunk of a macro where the text of the macro begins; the text
has `n` tokens, with the mark of its end. The chunk has 18 tokens more, and the text is inside four
parts of the grammar. -/
def bodyFuel (n : Nat) : Nat := 16 * (n + 18) + 60

/-- Reads the statements of a function up to the end of a text. -/
def readText (fuel : Nat) : Parse Unit := do
  enterBlock false
  let _ ← readStatements fuel
  match ← token with
  | .eof =>
    let _ ← leaveBlock
  | _ => failNear "<eof> expected"

/-- Whether a text is by itself the body of a function without parameters. -/
def isBody (text : ByteArray) : Bool :=
  match Lexer.lex text with
  | (l :: ls, none) =>
    (readText (bodyFuel (ls.length + 1))
      ⟨l, ls, none, 1, [{}, chunkBehind [] 0], 0, .empty⟩).isOk
  | _ => false

theorem exists_of_isBody {text : ByteArray} (h : isBody text = true) :
    ∃ l ls functions statements st, Lexer.lex text = (l :: ls, none) ∧
      readStatements (bodyFuel (ls.length + 1)) ⟨l, ls, none, 1, functions, 0, .empty⟩ =
        .ok (statements, st) ∧ st.current.token = .eof := by
  rw [isBody] at h
  split at h
  case h_2 => exact nomatch h
  case h_1 l ls hlex =>
    cases hread : readText (bodyFuel (ls.length + 1))
      ⟨l, ls, none, 1, [{}, chunkBehind [] 0], 0, .empty⟩ with
    | error e =>
      rw [hread] at h
      exact nomatch h
    | ok r =>
      obtain ⟨_, st₁, henter, hread⟩ := bind_eq_ok_iff.1 hread
      obtain ⟨-, rfl⟩ := Prod.mk.inj (Except.ok.inj henter)
      obtain ⟨statements, st, hstatements, hread⟩ := bind_eq_ok_iff.1 hread
      obtain ⟨t, st₂, htoken, hread⟩ := bind_eq_ok_iff.1 hread
      obtain ⟨rfl, rfl⟩ := Prod.mk.inj (Except.ok.inj htoken)
      refine ⟨l, ls, _, statements, st, hlex, hstatements, ?_⟩
      generalize st.current.token = t at hread
      cases t with
      | eof => rfl
      | _ => exact absurd hread (fails_failNear _ _ _)

/-- What is read of a chunk. -/
theorem exists_of_parseLexemes {name : ByteArray} {l : Lexeme} {ls : List Lexeme}
    {fault : Option SyntaxFault} {body : FunctionBody}
    (h : parseLexemes name 0 (l :: ls) fault = .ok body) :
    ∃ statements st st', readStatements (16 * (l :: ls).length + 64)
        ⟨l, ls, fault, 1, [chunkBehind [] 0], 0, name⟩ = .ok (statements, st) ∧
      finishChunk name statements st = .ok (body, st') := by
  change Except.map Prod.fst ((readStatements (16 * (l :: ls).length + 64) >>= finishChunk name)
    ⟨l, ls, fault, 1, [chunkBehind [] 0], 0, name⟩) = .ok body at h
  generalize hread : (readStatements (16 * (l :: ls).length + 64) >>= finishChunk name) _ = r at h
  cases r with
  | error e => exact nomatch h
  | ok r =>
    obtain rfl := Except.ok.inj h
    obtain ⟨statements, st, hstatements, hfinish⟩ := bind_eq_ok_iff.1 hread
    exact ⟨statements, st, r.2, hstatements, hfinish⟩

/-! ### The function of a chunk -/

section Body

variable {fuel start d last : Nat} {n₁ n₂ : Nat} {t₁ t₂ source : ByteArray} {b : Lexeme}
  {ls : List Lexeme} {behind ts : List Token} {outer : List OpenFunction} {st st' : State}
  {fault : Option SyntaxFault}

/-- What is done with the statements of a function. -/
def finishBody (params : List Name) (isVararg : Bool) (start : Nat) (statements : List Statement) :
    Parse FunctionBody := do
  let last ← line
  expectClosing .kEnd .kFunction start
  let labels ← leaveBlock
  let fn ← function
  modify fun st ↦ { st with functions := st.functions.drop 1 }
  let captures := fn.captures.toList.map fun (name, c, _) ↦ (name, c)
  return .mk ⟨params, isVararg, captures, (← get).source, start, last, fn.mostVars + 3⟩
    (.mk statements labels)

theorem expectClosing_of_row {s opening : Symbol} {u : Unit}
    (h : expectClosing s opening start st = .ok (u, st')) (hrow : st.row = .symbol s :: ts)
    (hts : ts ≠ []) :
    st'.row = ts ∧ st'.functions = st.functions ∧ st'.depth = st.depth := by
  obtain ⟨current, rest, fault, last, functions, depth, source⟩ := st
  obtain ⟨hcurrent, hrest⟩ := List.cons.inj hrow
  have hs : isSymbol s current.token = true := isSymbol_eq_true_iff.2 hcurrent
  rw [expectClosing, accept_bind] at h
  obtain ⟨_, _, hat, h⟩ := bind_eq_ok_iff.1 h
  obtain ⟨rfl, rfl⟩ := Prod.mk.inj (Except.ok.inj hat)
  rw [if_pos hs] at h
  obtain ⟨_, _, hnext, h⟩ := bind_eq_ok_iff.1 h
  obtain ⟨-, rfl⟩ := Prod.mk.inj (pure_eq_ok_iff.1 h)
  cases rest with
  | nil => exact absurd hrest.symm hts
  | cons l ls =>
    obtain ⟨-, rfl⟩ := Prod.mk.inj (Except.ok.inj hnext)
    exact ⟨hrest, rfl, rfl⟩

theorem finishBody_eq_ok {params : List Name} {isVararg : Bool} {statements : List Statement}
    {body : FunctionBody} {fn : OpenFunction}
    (h : finishBody params isVararg start statements st = .ok (body, st'))
    (hrow : st.row = .symbol .kEnd :: behind) (hbehind : behind ≠ [])
    (houter : outer.length ≤ 1) (hst : st.functions = fn :: outer) :
    st'.row = behind ∧ st'.functions = outer ∧ st'.depth = st.depth ∧
      body.info.params = params ∧ body.info.isVararg = isVararg := by
  obtain ⟨_, _, hline, h⟩ := bind_eq_ok_iff.1 h
  obtain ⟨rfl, rfl⟩ := Prod.mk.inj (Except.ok.inj hline)
  obtain ⟨_, st₁, hclosing, h⟩ := bind_eq_ok_iff.1 h
  obtain ⟨hrow₁, hfunctions₁, hdepth₁⟩ := expectClosing_of_row hclosing hrow hbehind
  obtain ⟨_, st₂, hleave, h⟩ := bind_eq_ok_iff.1 h
  have hstill := Quiet.leaveBlock _ _ _ hleave
  obtain ⟨fs, hlength, hfs⟩ := hstill.functions [fn] outer (List.cons_ne_nil _ _) houter
    (hfunctions₁.trans hst)
  obtain ⟨fn', rfl⟩ := List.length_eq_one_iff.1 hlength
  obtain ⟨_, _, hfunction, h⟩ := bind_eq_ok_iff.1 h
  obtain ⟨rfl, rfl⟩ := Prod.mk.inj (Except.ok.inj hfunction)
  obtain ⟨_, _, hmodify, h⟩ := bind_eq_ok_iff.1 h
  obtain ⟨-, rfl⟩ := Prod.mk.inj (Except.ok.inj hmodify)
  obtain ⟨_, _, hget, h⟩ := bind_eq_ok_iff.1 h
  obtain ⟨rfl, rfl⟩ := Prod.mk.inj (Except.ok.inj hget)
  obtain ⟨rfl, rfl⟩ := Prod.mk.inj (pure_eq_ok_iff.1 h)
  exact ⟨hstill.row_eq.trans hrow₁, congrArg (List.drop 1) hfs, hstill.depth.trans hdepth₁, rfl,
    rfl⟩

/-- A text that is read by itself is also read in a function, up to the end of the text. -/
theorem row_of_readBody {n : Nat} {l b : Lexeme} {bs : List Lexeme} {behind : List Token}
    {functions : List OpenFunction} {statements : List Statement} {body : FunctionBody}
    {after : State} (hstep : InStep (some behind) (l.token :: ls.map Lexeme.token)
      (b.token :: bs.map Lexeme.token))
    (halone : readStatements fuel ⟨l, ls, none, n, functions, 0, .empty⟩ = .ok (statements, after))
    (heof : after.current.token = .eof) (hbehind : behind ≠ []) (hfault : st.fault = none)
    (houter : st.functions.length ≤ 1)
    (h : readBody (fuel + 1) false start (st.at ⟨.symbol (.char 40), n₁, t₁⟩
      (⟨.symbol (.char 41), n₂, t₂⟩ :: b :: bs) last) = .ok (body, st')) :
    st'.row = behind ∧ st'.functions = st.functions ∧ st'.depth = st.depth ∧
      body.info.params = [] ∧ body.info.isVararg = false := by
  obtain ⟨current, rest, fault, last', outer, depth, source⟩ := st
  obtain rfl : fault = none := hfault
  rw [readBody] at h
  change (readStatements fuel >>= finishBody [] false start)
    ⟨b, bs, none, n₂, _ :: outer, depth, source⟩ = .ok (body, st') at h
  obtain ⟨statements', st₁, hread, hfinish⟩ := bind_eq_ok_iff.1 h
  obtain ⟨-, hbeside⟩ := (agrees fuel).statements (l := 0) (p := anywhere) (some behind) outer depth
    ⟨l, ls, none, n, functions, 0, .empty⟩ ⟨b, bs, none, n₂, _ :: outer, depth, source⟩ houter
    ⟨hstep, rfl, rfl, ⟨[_], rfl, rfl⟩, rfl⟩ trivial _ _ _ _ halone hread
  obtain ⟨fs, hlength, hfs⟩ := hbeside.functions
  obtain ⟨fn, rfl⟩ := List.length_eq_one_iff.1 hlength
  have hrow : InStep (some behind) (.eof :: after.rest.map Lexeme.token) st₁.row := by
    rw [← heof]
    exact hbeside.row
  obtain ⟨hrow', hfunctions, hdepth, hinfo⟩ :=
    finishBody_eq_ok hfinish hrow.eq_of_eof hbehind houter hfs
  exact ⟨hrow', hfunctions, hdepth.trans hbeside.depth, hinfo⟩

end Body

/-! ### The tokens of a chunk -/

/-- The tokens of the chunk of a macro behind the function that is made of the macro. -/
def behindBody : List Token := entrypointClosing.tail ++ [.eof]

section Chunk

variable {k n : Nat} {l b : Lexeme} {ls bs lexemes : List Lexeme} {functions : List OpenFunction}
  {statements all : List Statement} {after st st' : State} {name : ByteArray}
  {declared body : FunctionBody} {ts : List Token}

/-- The chunk of a macro with its three statements: it makes `yield` a global variable, declares a
function without parameters, and answers a coroutine of it. -/
structure Wraps (body declared : FunctionBody) : Prop where
  params_eq : body.info.params = []
  frameSize_eq : body.info.frameSize = 4
  declared_params : declared.info.params = []
  declared_isVararg : declared.info.isVararg = false
  statements_eq : ∃ yields answers,
    body.block.statements = [yields, .declareFunction "entrypoint".toUTF8 declared, answers] ∧
      yieldGlobal? yields = some "yield".toUTF8 ∧ answersCoroutine 1 answers = true

theorem Wraps.isEntrypoint (h : Wraps body declared) : isEntrypoint ["yield"] body = true := by
  obtain ⟨yields, answers, hstatements, hyields, hanswers⟩ := h.statements_eq
  have hslots : 4 + Machine.librarySlots ≤ Machine.slotLimit := by decide
  simp [Script.isEntrypoint, h.params_eq, h.frameSize_eq, hslots, hstatements, isEntrypointFrom,
    hyields, hanswers]

/-- Behind the function of a macro the parser is in front of the last statement. -/
theorem exists_eq_inFrontOfReturn (hrow : st.row = behindBody) :
    ∃ n₁ n₂ n₃ n₄ n₅ n₆ n₇ n₈ t₁ t₂ t₃ t₄ t₅ t₆ t₇ t₈,
      st = inFrontOfReturn n₁ n₂ n₃ n₄ n₅ n₆ n₇ n₈ st.lastLine t₁ t₂ t₃ t₄ t₅ t₆ t₇ t₈ st := by
  simp only [State.row, behindBody, entrypointClosing, List.tail_cons, List.cons_append,
    List.nil_append, List.cons.injEq, List.map_eq_cons_iff, List.map_eq_nil_iff] at hrow
  obtain ⟨hcurrent, ⟨_, n₂, t₂⟩, _, hrest, rfl, ⟨_, n₃, t₃⟩, _, rfl, rfl, ⟨_, n₄, t₄⟩, _, rfl, rfl,
    ⟨_, n₅, t₅⟩, _, rfl, rfl, ⟨_, n₆, t₆⟩, _, rfl, rfl, ⟨_, n₇, t₇⟩, _, rfl, rfl,
    ⟨_, n₈, t₈⟩, _, rfl, rfl, rfl⟩ := hrow
  obtain ⟨⟨_, n₁, t₁⟩, _, fault, last, functions, depth, source⟩ := st
  obtain rfl := hcurrent
  obtain rfl := hrest
  exact ⟨n₁, n₂, n₃, n₄, n₅, n₆, n₇, n₈, t₁, t₂, t₃, t₄, t₅, t₆, t₇, t₈, rfl⟩

/-- At the start of the chunk of a macro the parser is in front of the first statement. -/
theorem exists_eq_inFrontOfYield {t : Token}
    (hrow : st.row = entrypointOpening ++ t :: ts) :
    ∃ n₁ n₂ n₃ n₄ n₅ n₆ n₇ n₈ n₉ n₁₀ t₁ t₂ t₃ t₄ t₅ t₆ t₇ t₈ t₉ t₁₀ b bs,
      st = inFrontOfYield n₁ n₂ n₃ n₄ n₅ n₆ st.lastLine t₁ t₂ t₃ t₄ t₅ t₆
        (⟨.symbol .kFunction, n₇, t₇⟩ :: ⟨.name "entrypoint".toUTF8, n₈, t₈⟩ ::
          ⟨.symbol (.char 40), n₉, t₉⟩ :: ⟨.symbol (.char 41), n₁₀, t₁₀⟩ :: b :: bs) st ∧
      b.token = t ∧ bs.map Lexeme.token = ts := by
  simp only [State.row, entrypointOpening, List.cons_append, List.nil_append, List.cons.injEq,
    List.map_eq_cons_iff] at hrow
  obtain ⟨hcurrent, ⟨_, n₂, t₂⟩, _, hrest, rfl, ⟨_, n₃, t₃⟩, _, rfl, rfl, ⟨_, n₄, t₄⟩, _, rfl, rfl,
    ⟨_, n₅, t₅⟩, _, rfl, rfl, ⟨_, n₆, t₆⟩, _, rfl, rfl, ⟨_, n₇, t₇⟩, _, rfl, rfl,
    ⟨_, n₈, t₈⟩, _, rfl, rfl, ⟨_, n₉, t₉⟩, _, rfl, rfl, ⟨_, n₁₀, t₁₀⟩, _, rfl, rfl,
    b, bs, rfl, rfl, rfl⟩ := hrow
  obtain ⟨⟨_, n₁, t₁⟩, _, fault, last, functions, depth, source⟩ := st
  obtain rfl := hcurrent
  obtain rfl := hrest
  exact ⟨n₁, n₂, n₃, n₄, n₅, n₆, n₇, n₈, n₉, n₁₀, t₁, t₂, t₃, t₄, t₅, t₆, t₇, t₈, t₉, t₁₀, b, bs,
    rfl, rfl, rfl⟩

/-- The statements of a chunk around a text that is the body of a function. -/
theorem exists_statements {t : Token} (hrow : st.row = entrypointOpening ++ t :: ts)
    (hstep : InStep (some behindBody) (l.token :: ls.map Lexeme.token) (t :: ts))
    (halone : readStatements (k + 20) ⟨l, ls, none, n, functions, 0, .empty⟩ =
      .ok (statements, after))
    (heof : after.current.token = .eof) (hfault : st.fault = none)
    (hst : st.functions = [chunkBehind [] 0]) (hdepth : st.depth = 0)
    (h : readStatements (k + 24) st = .ok (all, st')) :
    st'.current.token = .eof ∧ st'.functions = [chunkBehind [entrypointVar] 3] ∧
      ∃ yields declared answers,
        all = [yields, .declareFunction "entrypoint".toUTF8 declared, answers] ∧
        yieldGlobal? yields = some "yield".toUTF8 ∧ answersCoroutine 1 answers = true ∧
        declared.info.params = [] ∧ declared.info.isVararg = false := by
  obtain ⟨n₁, n₂, n₃, n₄, n₅, n₆, n₇, n₈, n₉, n₁₀, t₁, t₂, t₃, t₄, t₅, t₆, t₇, t₈, t₉, t₁₀, b, bs,
    hstart, rfl, rfl⟩ := exists_eq_inFrontOfYield hrow
  -- The first statement.
  obtain ⟨yields, hyields, hfirst⟩ := exists_readStatements_yield (k + 12) n₁ n₂ n₃ n₄ n₅ n₆
    st.lastLine t₁ t₂ t₃ t₄ t₅ t₆ _ hst (show st.depth + 2 < depthLimit by rw [hdepth]; decide)
  rw [hstart] at h
  obtain ⟨further, st₁, hfurther, h⟩ := bind_eq_ok_iff.1 (hfirst.symm.trans h)
  obtain ⟨rfl, rfl⟩ := Prod.mk.inj (pure_eq_ok_iff.1 h)
  -- The function.
  obtain ⟨declared, inner, rest, hbody, hrest, rfl⟩ := exists_readBody (k := k + 21) rfl hfurther
  obtain ⟨hinner, hfunctions, hdepth', hparams, hvararg⟩ := row_of_readBody hstep halone heof
    (by decide) (by exact hfault) (by exact Nat.le_refl 1) hbody
  -- The last statement.
  obtain ⟨m₁, m₂, m₃, m₄, m₅, m₆, m₇, m₈, u₁, u₂, u₃, u₄, u₅, u₆, u₇, u₈, hbehind⟩ :=
    exists_eq_inFrontOfReturn hinner
  let ending : State :=
    { inner with functions := [chunkBehind [entrypointVar] 2], depth := inner.depth - 1 }
  have hending : ending.depth = 0 := congrArg (· - 1) (hdepth'.trans (congrArg (· + 1) hdepth))
  obtain ⟨answers, hanswers, hlast⟩ := exists_readStatements_return (k + 4) m₁ m₂ m₃ m₄ m₅ m₆ m₇ m₈
    inner.lastLine u₁ u₂ u₃ u₄ u₅ u₆ u₇ u₈
    (show ending.functions = [chunkBehind [entrypointVar] 2] from rfl)
    (show ending.depth + 3 < depthLimit by rw [hending]; decide)
  have hrest := hrest hfunctions
  rw [hbehind] at hrest
  obtain ⟨rfl, rfl⟩ := Prod.mk.inj (Except.ok.inj (hrest.symm.trans hlast))
  exact ⟨rfl, rfl, yields, declared, answers, rfl, hyields, hanswers, hparams, hvararg⟩

/-- **The chunk of a macro that is the body of a function.** If it can be read, it makes `yield` a
global variable, declares the function and answers a coroutine of it. -/
theorem exists_wraps_of_parseLexemes
    (hstep : InStep (some behindBody) (l.token :: ls.map Lexeme.token) ts)
    (halone : readStatements (bodyFuel (ls.length + 1)) ⟨l, ls, none, n, functions, 0, .empty⟩ =
      .ok (statements, after))
    (heof : after.current.token = .eof)
    (htokens : lexemes.map Lexeme.token = entrypointOpening ++ ts)
    (h : parseLexemes name 0 lexemes none = .ok body) : ∃ declared, Wraps body declared := by
  obtain ⟨k, hk⟩ : ∃ k, bodyFuel (ls.length + 1) = k + 20 :=
    ⟨bodyFuel (ls.length + 1) - 20, by rw [bodyFuel]; omega⟩
  rw [hk] at halone
  have hfuel : 16 * lexemes.length + 64 = k + 24 := by
    have hlength := congrArg List.length htokens
    have hts := hstep.length_eq
    simp only [List.length_map, List.length_append, List.length_cons] at hlength hts
    have hopening : entrypointOpening.length = 10 := rfl
    have hbehind : behindBody.length = 8 := rfl
    rw [bodyFuel] at hk
    omega
  obtain ⟨t, ts, rfl⟩ := List.exists_cons_of_ne_nil hstep.ne_nil.2
  cases lexemes with
  | nil => exact nomatch htokens
  | cons l' ls' =>
    obtain ⟨all, st, st', hall, hfinish⟩ := exists_of_parseLexemes h
    let start : State := ⟨l', ls', none, 1, [chunkBehind [] 0], 0, name⟩
    rw [hfuel] at hall
    obtain ⟨hend, hfunctions, yields, declared, answers, rfl, hyields, hanswers, hparams,
      hvararg⟩ :=
        exists_statements (show start.row = _ from htokens) hstep halone heof rfl rfl rfl hall
    obtain ⟨⟨_, m, u⟩, rest, fault, last, functions, depth, source⟩ := st
    obtain rfl := hend
    obtain rfl := hfunctions
    obtain ⟨rfl, -⟩ := Prod.mk.inj (Except.ok.inj hfinish)
    exact ⟨declared, rfl, rfl, hparams, hvararg, yields, answers, rfl, hyields, hanswers⟩

end Chunk

/-! ### The tokens of a text -/

theorem ne_eof_of_reads {bs r : List UInt8} {t : Token} (h : Lexer.Reads bs (some t) r) :
    t ≠ .eof := by
  generalize ht : some t = t? at h
  cases h with
  | name =>
    cases ht
    rw [Lexer.nameToken]
    split <;> exact Token.noConfusion
  | numeral =>
    cases ht
    rw [Lexer.numeralToken.eq_def]
    split <;> exact Token.noConfusion
  | string => cases ht; exact Token.noConfusion
  | symbol => cases ht; exact Token.noConfusion
  | _ => exact nomatch ht

theorem ne_eof_of_lexes {bs : List UInt8} {ps : List Lexer.Placed} (h : Lexer.Lexes bs ps) :
    ∀ p ∈ ps, p.token ≠ .eof := by
  induction h with
  | nil => exact fun _ hp ↦ nomatch hp
  | gap _ _ ih => exact ih
  | token h _ ih => exact List.forall_mem_cons.2 ⟨ne_eof_of_reads h, ih⟩

/-- The end is not marked behind a fault. -/
theorem ne_eof_of_lexFrom {n line : Nat} {bs : List UInt8} {ls : List Lexeme} {f : SyntaxFault}
    (h : Lexer.lexFrom n line bs = (ls, some f)) : ∀ l ∈ ls, l.token ≠ .eof := by
  induction n generalizing line bs ls with
  | zero =>
    obtain ⟨rfl, -⟩ := Prod.mk.inj h
    exact fun _ hl ↦ nomatch hl
  | succ n ih =>
    rcases bs with _ | ⟨b, bs⟩
    · exact nomatch h
    rw [Lexer.lexFrom] at h
    split at h
    case h_1 =>
      obtain ⟨rfl, -⟩ := Prod.mk.inj h
      exact fun _ hl ↦ nomatch hl
    case h_2 => exact ih h
    case h_3 l r hlexeme =>
      obtain ⟨rfl, hfault⟩ := Prod.mk.inj h
      exact List.forall_mem_cons.2
        ⟨ne_eof_of_reads (Lexer.reads_of_readPiece hlexeme), ih (Prod.ext rfl hfault)⟩

theorem inStep_self {t : Token} {ts : List Token} (h : ∀ t' ∈ t :: ts, t' ≠ .eof) :
    InStep none (t :: ts) (t :: ts) := by
  induction ts generalizing t with
  | nil => exact .fault (.same (h t List.mem_cons_self))
  | cons t' ts ih =>
    exact .token (.same (h t List.mem_cons_self)) (ih (List.forall_mem_cons.1 h).2)

/-- A macro and its chunk have tokens of the same kinds. -/
theorem inStep_of_indented {ps : List Lexer.Placed} {ts : List Token}
    (h : List.Forall₂ Lexer.Placed.Indented ps ts) (hps : ∀ p ∈ ps, p.token ≠ .eof)
    (behind : List Token) :
    InStep (some behind) (ps.map Lexer.Placed.token ++ [.eof]) (ts ++ .symbol .kEnd :: behind) := by
  induction h with
  | nil => exact .done behind
  | @cons p t ps ts hp _ ih =>
    obtain ⟨hne, hps⟩ := List.forall_mem_cons.1 hps
    refine .token ?_ (ih hps)
    cases hp with
    | same => exact .same hne
    | string => exact .str _ _

/-- Only a chunk without a fault can be read. -/
theorem fault_eq_none {name text : ByteArray} {body : FunctionBody}
    (h : parse name 0 text = .ok body) : (Lexer.lex text).2 = none := by
  rw [parse] at h
  generalize hlex : Lexer.lex text = r at h
  obtain ⟨ls, _ | f⟩ := r
  · rfl
  have hne : ∀ l ∈ ls, l.token ≠ .eof := ne_eof_of_lexFrom hlex
  cases ls with
  | nil => cases h
  | cons l ls =>
    obtain ⟨statements, st, _, hread, hfinish⟩ := exists_of_parseLexemes h
    let start : State := ⟨l, ls, some f, 1, [chunkBehind [] 0], 0, name⟩
    have hrow : InStep none start.row start.row :=
      inStep_self (List.forall_mem_map.2 hne : ∀ t ∈ (l :: ls).map Lexeme.token, t ≠ .eof)
    obtain ⟨-, hbeside⟩ := (agrees _).statements (l := 0) (p := anywhere) none [] 0 start start
      (Nat.zero_le 1) ⟨hrow, rfl, rfl, ⟨[_], rfl, rfl⟩, rfl⟩ trivial _ _ _ _ hread hread
    obtain ⟨t, _, htoken, hfinish⟩ := bind_eq_ok_iff.1 hfinish
    obtain ⟨rfl, rfl⟩ := Prod.mk.inj (Except.ok.inj htoken)
    have hfront : st.current.token ≠ .eof := by
      rcases hbeside.row.front with hkind | ⟨heof, hend⟩
      · exact hkind.ne_eof
      · cases heof.symm.trans hend
    generalize st.current.token = t at hfinish hfront
    cases t with
    | eof => exact absurd rfl hfront
    | _ => exact absurd hfinish ((fails_failNear _).bind _ _ _)

end Parser

/-! ### Macros that are function bodies -/

/-- **A macro that is the body of a function is just that in its chunk.** -/
theorem exists_wraps_of_isBody {name source : String} (h : Parser.isBody source.toUTF8 = true)
    {body : FunctionBody} (hbody : macroChunk name source = .ok body) :
    ∃ declared, Parser.Wraps body declared := by
  obtain ⟨l, ls, functions, statements, st, hlex, hread, heof⟩ := Parser.exists_of_isBody h
  obtain ⟨ps, hps, htokens⟩ := Lexer.lexes_of_lexFrom hlex
  have hnone := Parser.fault_eq_none hbody
  generalize hchunk : Lexer.lex (entrypointSource source).toUTF8 = r at hnone
  obtain ⟨lexemes, fault⟩ := r
  obtain rfl : fault = none := hnone
  obtain ⟨ps', hps', htokens'⟩ := Lexer.lexes_of_lexFrom hchunk
  have htokens? : Lexer.tokens? (entrypointSource source).toUTF8 =
      some (ps'.map Lexer.Placed.token) := Lexer.tokens?_eq_some_iff.2 ⟨ps', hps', rfl⟩
  have htorn (p : Lexer.Placed) (hp : p ∈ ps) : p.isTorn = false := by
    refine Bool.eq_false_iff.2 fun hne ↦ ?_
    exact Option.some_ne_none _ (htokens?.symm.trans (lost_of_lexes hps ⟨p, hp, hne⟩))
  obtain ⟨ts, hindented, hts⟩ := indented_of_lexes hps htorn
  have hstep := Parser.inStep_of_indented hindented (Parser.ne_eof_of_lexes hps)
    Parser.behindBody
  rw [← htokens] at hstep
  have hparse : Parser.parseLexemes (macroChunkName name).toUTF8 0 lexemes none = .ok body := by
    rw [macroChunk, Parser.parse, hchunk] at hbody
    exact hbody
  refine Parser.exists_wraps_of_parseLexemes hstep hread heof ?_ hparse
  rw [htokens', Option.some.inj (htokens?.symm.trans hts)]
  simp [Parser.behindBody, entrypointClosing]

theorem staysInside_of_isBody (name : String) {source : String}
    (h : Parser.isBody source.toUTF8 = true) : StaysInside name source := by
  intro body hbody
  obtain ⟨declared, hwraps⟩ := exists_wraps_of_isBody h hbody
  exact hwraps.isEntrypoint

/-- **Macros are only prepared when they are started.** If the text of a macro is by itself the body
of a function, then its chunk is just a wrapping of this function, and the start of the macro has no
effects but for reports: no capability is called. Of the chunk comes one value, a new coroutine that
has not been started, and but for `yield` all global variables are as the host has bound them.
Otherwise there is a reason that lies in the name, the chunk or the host. -/
theorem exists_init_of_isBody {μ : Type → Type} [Monad μ] [LawfulMonad μ] (p : Platform μ)
    (config : ScriptingConfig) (host : ScriptHost μ) (name : String) {source : String}
    (h : Parser.isBody source.toUTF8 = true) :
    (∀ body, macroChunk name source = .ok body → ∃ declared, Parser.Wraps body declared) ∧
      ∃ reports i r i' o,
        Session.prepare p (Session.macroResponder p config host) config host.macroCapabilities
            host.services = (do Session.reportAll p reports; pure (.ok i)) ∧
        i.evaluate (Session.macroResponder p config host) (macroChunkName name)
            (entrypointSource source).toUTF8 = pure (r, i') ∧
        ScriptBridge.init (macroEngine p config host) name source =
          (do
            Session.reportAll p (startReport name :: reports)
            pure (o.map fun s ↦ ⟨some (.ofThread s)⟩)) ∧
        Starts config host name source ["yield"] i.heap r i' o := by
  refine ⟨fun body hbody ↦ exists_wraps_of_isBody h hbody, ?_⟩
  obtain ⟨reports, i, r, i', o, hprepare, hevaluate, hstart, hstarts⟩ :=
    exists_start_of_isEntrypoint p config host (by decide) (by decide)
      (staysInside_of_isBody name h)
  refine ⟨reports, i, r, i', o, hprepare, hevaluate, ?_, hstarts⟩
  rw [ScriptBridge.init, macroEngine]
  simp only [hstart, bind_assoc, pure_bind]

/-- Where nothing is in the way, a macro is a script that waits for its first line. -/
theorem exists_init_of_isBody_echo :
    Parser.isBody "yield('/echo a')".toUTF8 = true ∧
      ∃ (s : Session) (f : Value),
        Id.run (ScriptBridge.init (macroEngine deafPlatform {} loneHost) "m" "yield('/echo a')") =
          .ok ⟨some (.ofThread s)⟩ ∧
        s.interpreter.heap.threadStatus s.thread = .fresh f := by
  have hbody : Parser.isBody "yield('/echo a')".toUTF8 = true := by decide +kernel
  have hchunk : givesYield ["yield"] "yield('/echo a')" = true := by decide +kernel
  obtain ⟨-, reports, i, r, i', o, -, -, hinit, hstarts⟩ :=
    exists_init_of_isBody deafPlatform {} loneHost "m" hbody
  refine ⟨hbody, ?_⟩
  rw [hinit]
  cases hstarts with
  | hindered h =>
    obtain ⟨body, hbody, -⟩ := exists_of_givesYield hchunk
    exact absurd h (not_hindrance hbody (show ¬loneHost.Claims "coroutine" by decide))
  | @ready body t i' hbody hanswers =>
    obtain ⟨fa, x, declared, captured, hthreads, -⟩ := hanswers.fresh
    obtain rfl : t = i.heap.threads.size := by simpa using hanswers.values_eq
    refine ⟨⟨i', i.heap.threads.size⟩, .function fa, rfl, ?_⟩
    simp [Heap.threadStatus, hthreads]

example : Parser.isBody escapingSource.toUTF8 = false := by
  decide +kernel

end MacroStream.Script
