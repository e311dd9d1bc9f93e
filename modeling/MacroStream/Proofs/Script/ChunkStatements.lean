import MacroStream.Proofs.Script.ListedFunctions
import MacroStream.Proofs.Script.ParallelGrammar

/-!
# Reading the chunk of a macro

The chunk of a macro has three statements that are always the same, but for what is inside of the
function that it declares. Here they are read one by one: the one that makes `yield` a global
variable (`exists_readStatements_yield`), the head of the function (`exists_readBody`), and the one
that answers a coroutine (`exists_readStatements_return`).
-/

namespace MacroStream.Script.Parser

/-- The function of a chunk in which variables are declared and statements were read. -/
def chunkBehind (vars : List Var) (count : Nat) : OpenFunction :=
  { isVararg := true, captures := #[(envName, .scope 0, .regular)], vars,
    blocks := [⟨false, 0, false, [], [], count⟩], mostVars := vars.length }

/-! ### Statements of a chunk -/

/-- What is done with a statement that is no `return`. -/
def furtherStatements (n : Nat) : Option Statement → Parse (List Statement)
  | some s => do
    modifyBlock fun b ↦ { b with count := b.count + 1 }
    return s :: (← readStatements n)
  | none => readStatements n

theorem readStatements_eq {st : State} (hends : blockEnds true st = .ok (false, st))
    (hreturn : isSymbol .kReturn st.current.token = false) (n : Nat) :
    readStatements (n + 1) st = (nested (readStatement n) >>= furtherStatements n) st := by
  rw [readStatements, bind_of_ok hends]
  show (at' .kReturn >>= _ : Parse (List Statement)) st = _
  rw [bind_of_ok (show at' .kReturn st = .ok (isSymbol .kReturn st.current.token, st) from rfl),
    hreturn]
  rfl

section Statements

variable {count k : Nat} {n₁ n₂ n₃ n₄ n₅ n₆ n₇ n₈ last : Nat}
  {t₁ t₂ t₃ t₄ t₅ t₆ t₇ t₈ : ByteArray} {ls : List Lexeme} {st st' : State}

/-- The function `coroutine.yield` or `coroutine.create`, as it is read. -/
def coroutineField (field : String) (line : Nat) : Operand :=
  ⟨.index (.index (.captured envName 0) (.str "coroutine".toUTF8) line) (.str field.toUTF8) 0, none⟩

section Yield

variable (n₁ n₂ n₃ n₄ n₅ n₆ last t₁ t₂ t₃ t₄ t₅ t₆ ls st) in
/-- The parser in front of the statement that makes `yield` a global variable. -/
def inFrontOfYield : State :=
  st.at ⟨.name "yield".toUTF8, n₁, t₁⟩ (⟨.symbol (.char 61), n₂, t₂⟩ ::
    ⟨.name "coroutine".toUTF8, n₃, t₃⟩ :: ⟨.symbol (.char 46), n₄, t₄⟩ ::
    ⟨.name "yield".toUTF8, n₅, t₅⟩ :: ⟨.symbol .kLocal, n₆, t₆⟩ :: ls) last

variable (k n₁ n₂ n₃ n₄ n₅ n₆ last t₁ t₂ t₃ t₄ t₅ t₆ ls) in
theorem exists_readStatement_yield (hst : st.functions = [chunkBehind [] count])
    (hdepth : st.depth + 1 < depthLimit) :
    ∃ s, readStatement (k + 11)
        (inFrontOfYield n₁ n₂ n₃ n₄ n₅ n₆ last t₁ t₂ t₃ t₄ t₅ t₆ ls st) =
        .ok (some s, st.at ⟨.symbol .kLocal, n₆, t₆⟩ ls n₅) ∧
      yieldGlobal? s = some "yield".toUTF8 := by
  let target : Operand := ⟨.index (.captured envName 0) (.str "yield".toUTF8) 0, none⟩
  let value := coroutineField "yield" n₃
  have htarget : readSuffixed (k + 9)
      (inFrontOfYield n₁ n₂ n₃ n₄ n₅ n₆ last t₁ t₂ t₃ t₄ t₅ t₆ ls st) =
      .ok (target, st.at ⟨.symbol (.char 61), n₂, t₂⟩ (⟨.name "coroutine".toUTF8, n₃, t₃⟩ ::
        ⟨.symbol (.char 46), n₄, t₄⟩ :: ⟨.name "yield".toUTF8, n₅, t₅⟩ ::
        ⟨.symbol .kLocal, n₆, t₆⟩ :: ls) n₁) :=
    readSuffixed_global hst ⟨rfl, rfl, rfl, envName_ne_yield⟩ rfl
  have hst' : ({ st with depth := st.depth + 1 } : State).functions = [chunkBehind [] count] := hst
  have hvalue : readSuffixed (k + 4) (State.at { st with depth := st.depth + 1 }
      ⟨.name "coroutine".toUTF8, n₃, t₃⟩ (⟨.symbol (.char 46), n₄, t₄⟩ ::
        ⟨.name "yield".toUTF8, n₅, t₅⟩ :: ⟨.symbol .kLocal, n₆, t₆⟩ :: ls) n₂) =
      .ok (value, State.at { st with depth := st.depth + 1 } ⟨.symbol .kLocal, n₆, t₆⟩ ls n₅) := by
    refine (readSuffixed_field hst' ⟨rfl, rfl, rfl, by decide⟩).trans ?_
    rw [readSuffixes]
    rfl
  have hvalues : readExprs (k + 8) (st.at ⟨.name "coroutine".toUTF8, n₃, t₃⟩
      (⟨.symbol (.char 46), n₄, t₄⟩ :: ⟨.name "yield".toUTF8, n₅, t₅⟩ ::
        ⟨.symbol .kLocal, n₆, t₆⟩ :: ls) n₂) =
      .ok ([value.expr], st.at ⟨.symbol .kLocal, n₆, t₆⟩ ls n₅) :=
    readExprs_of_suffixed (st.at _ _ n₂) (State.at { st with depth := st.depth + 1 } _ _ n₅) value
      rfl hdepth hvalue rfl rfl rfl
  have hassign : readExprStatement (k + 10)
      (inFrontOfYield n₁ n₂ n₃ n₄ n₅ n₆ last t₁ t₂ t₃ t₄ t₅ t₆ ls st) =
      .ok (.assign [.index (.captured envName 0) (.str "yield".toUTF8) n₅]
        [settleAt n₅ value.expr] n₅, st.at ⟨.symbol .kLocal, n₆, t₆⟩ ls n₅) := by
    rw [readExprStatement, bind_of_ok htarget]
    show readAssignment (k + 9) [target] _ = _
    rw [readAssignment]
    show (readExprs (k + 8) >>= fun values ↦ lastLine >>= fun last ↦
      pure (.assign [.index (.captured envName 0) (.str "yield".toUTF8) last]
        (values.map (settleAt last)) last) : Parse Statement)
      (st.at ⟨.name "coroutine".toUTF8, n₃, t₃⟩ _ n₂) = _
    rw [bind_of_ok hvalues]
    rfl
  refine ⟨.assign [.index (.captured envName 0) (.str "yield".toUTF8) n₅]
        [settleAt n₅ value.expr] n₅, ?_, rfl⟩
  rw [readStatement]
  show (readExprStatement (k + 10) >>= fun s ↦ pure (some s) : Parse (Option Statement)) _ = _
  exact bind_of_ok hassign _

variable (k n₁ n₂ n₃ n₄ n₅ n₆ last t₁ t₂ t₃ t₄ t₅ t₆ ls) in
theorem exists_readStatements_yield (hst : st.functions = [chunkBehind [] count])
    (hdepth : st.depth + 2 < depthLimit) :
    ∃ s, yieldGlobal? s = some "yield".toUTF8 ∧ readStatements (k + 12)
        (inFrontOfYield n₁ n₂ n₃ n₄ n₅ n₆ last t₁ t₂ t₃ t₄ t₅ t₆ ls st) =
      (readStatements (k + 11) >>= fun rest ↦ pure (s :: rest) : Parse (List Statement))
        (State.at { st with functions := [chunkBehind [] (count + 1)] }
          ⟨.symbol .kLocal, n₆, t₆⟩ ls n₅) := by
  let deeper : State := { st with depth := st.depth + 1 }
  obtain ⟨s, hs, hyield⟩ := exists_readStatement_yield k n₁ n₂ n₃ n₄ n₅ n₆ last t₁ t₂ t₃ t₄ t₅ t₆ ls
    (show deeper.functions = [chunkBehind [] count] from hst) hdepth
  have hnested := nested_of_ok (inFrontOfYield n₁ n₂ n₃ n₄ n₅ n₆ last t₁ t₂ t₃ t₄ t₅ t₆ ls st)
    (Nat.lt_of_succ_lt hdepth) hs
  refine ⟨s, hyield, ?_⟩
  obtain ⟨current, rest, fault, last', functions, depth, source⟩ := st
  obtain rfl : functions = [chunkBehind [] count] := hst
  rw [readStatements_eq rfl rfl, bind_of_ok hnested]
  rfl

end Yield

section Return

/-- The variable of the function that is made of a macro. -/
def entrypointVar : Var := ⟨"entrypoint".toUTF8, .regular⟩

theorem exists_readBody {b : Lexeme} {statements : List Statement}
    (hst : st.functions = [chunkBehind [] count])
    (h : readStatements (k + 2) (st.at ⟨.symbol .kLocal, n₁, t₁⟩ (⟨.symbol .kFunction, n₂, t₂⟩ ::
      ⟨.name "entrypoint".toUTF8, n₃, t₃⟩ :: b :: ls) last) = .ok (statements, st')) :
    ∃ body inner rest, readBody k false b.line (State.at { st with
        functions := [chunkBehind [entrypointVar] count], depth := st.depth + 1 } b ls n₃) =
        .ok (body, inner) ∧
      (inner.functions = [chunkBehind [entrypointVar] count] → readStatements (k + 1)
        { inner with functions := [chunkBehind [entrypointVar] (count + 1)],
                     depth := inner.depth - 1 } = .ok (rest, st')) ∧
      statements = .declareFunction "entrypoint".toUTF8 body :: rest := by
  obtain ⟨current, rest, fault, last', functions, depth, source⟩ := st
  obtain rfl : functions = [chunkBehind [] count] := hst
  rw [readStatements_eq rfl rfl] at h
  obtain ⟨s?, st₁, hnested, hfurther⟩ := bind_eq_ok_iff.1 h
  obtain ⟨st₂, hs, rfl⟩ := nested_eq_ok hnested
  rw [readStatement] at hs
  change (readBody k false b.line >>= fun body ↦
      pure (some (.declareFunction "entrypoint".toUTF8 body)) : Parse (Option Statement))
    ⟨b, ls, fault, n₃, [chunkBehind [entrypointVar] count], depth + 1, source⟩ = _ at hs
  obtain ⟨body, inner, hbody, hs⟩ := bind_eq_ok_iff.1 hs
  obtain ⟨rfl, rfl⟩ := Prod.mk.inj (pure_eq_ok_iff.1 hs)
  obtain ⟨_, st₃, hcount, hread⟩ := bind_eq_ok_iff.1 hfurther
  obtain ⟨rest, st₄, hrest, hstatements⟩ := bind_eq_ok_iff.1 hread
  obtain ⟨rfl, rfl⟩ := Prod.mk.inj (pure_eq_ok_iff.1 hstatements)
  refine ⟨body, inner, rest, hbody, fun hinner ↦ ?_, rfl⟩
  obtain ⟨-, rfl⟩ := Prod.mk.inj (Except.ok.inj hcount)
  obtain ⟨current, rest, fault, last', functions, depth, source⟩ := inner
  obtain rfl : functions = [chunkBehind [entrypointVar] count] := hinner
  exact hrest

theorem nameOperand_entrypoint (hst : st.functions = [chunkBehind [entrypointVar] count]) :
    nameOperand "entrypoint".toUTF8 st = .ok (⟨.scope "entrypoint".toUTF8 0, none⟩, st) := by
  have hresolve : resolveIn "entrypoint".toUTF8 [chunkBehind [entrypointVar] count] =
      (some (.scope 0 .regular), [chunkBehind [entrypointVar] count]) := by
    simp [resolveIn, chunkBehind, findVar, entrypointVar]
  rw [nameOperand, bind_of_ok (resolve_of_resolveIn hst hresolve (show 1 ≤ 255 by decide))]
  rfl

theorem findVar_entrypointVar {s : Name} (hs : "entrypoint".toUTF8 ≠ s) :
    findVar s 0 [entrypointVar] = none := by
  rw [findVar, entrypointVar, if_neg hs]
  rfl

variable (n₁ n₂ n₃ n₄ n₅ n₆ n₇ n₈ last t₁ t₂ t₃ t₄ t₅ t₆ t₇ t₈ st) in
/-- The parser in front of the statement that answers a coroutine, at the end of a chunk. -/
def inFrontOfReturn : State :=
  st.at ⟨.symbol .kReturn, n₁, t₁⟩ [⟨.name "coroutine".toUTF8, n₂, t₂⟩,
    ⟨.symbol (.char 46), n₃, t₃⟩, ⟨.name "create".toUTF8, n₄, t₄⟩, ⟨.symbol (.char 40), n₅, t₅⟩,
    ⟨.name "entrypoint".toUTF8, n₆, t₆⟩, ⟨.symbol (.char 41), n₇, t₇⟩, ⟨.eof, n₈, t₈⟩] last

/-- The function of the macro, as it is handed to `coroutine.create`. -/
def entrypointExpr : Expr := .scope "entrypoint".toUTF8 0

theorem readArgs_entrypoint (hst : st.functions = [chunkBehind [entrypointVar] count])
    (hdepth : st.depth + 1 < depthLimit) :
    readArgs (k + 8) (st.at ⟨.symbol (.char 40), n₅, t₅⟩
      [⟨.name "entrypoint".toUTF8, n₆, t₆⟩, ⟨.symbol (.char 41), n₇, t₇⟩, ⟨.eof, n₈, t₈⟩] n₄) =
      .ok (([entrypointExpr], n₅), st.at ⟨.eof, n₈, t₈⟩ [] n₇) := by
  let deeper : State := { st with depth := st.depth + 1 }
  have hdeeper : deeper.functions = [chunkBehind [entrypointVar] count] := hst
  have hprimary : readPrimary (k + 2) (deeper.at ⟨.name "entrypoint".toUTF8, n₆, t₆⟩
      [⟨.symbol (.char 41), n₇, t₇⟩, ⟨.eof, n₈, t₈⟩] n₅) =
      .ok (⟨entrypointExpr, none⟩,
        deeper.at ⟨.symbol (.char 41), n₇, t₇⟩ [⟨.eof, n₈, t₈⟩] n₆) := by
    rw [readPrimary]
    exact nameOperand_entrypoint hdeeper
  have hargument : readSuffixed (k + 3) (deeper.at ⟨.name "entrypoint".toUTF8, n₆, t₆⟩
      [⟨.symbol (.char 41), n₇, t₇⟩, ⟨.eof, n₈, t₈⟩] n₅) =
      .ok (⟨entrypointExpr, none⟩,
        deeper.at ⟨.symbol (.char 41), n₇, t₇⟩ [⟨.eof, n₈, t₈⟩] n₆) := by
    rw [readSuffixed, bind_of_ok hprimary, readSuffixes]
    rfl
  have harguments : readExprs (k + 7) (st.at ⟨.name "entrypoint".toUTF8, n₆, t₆⟩
      [⟨.symbol (.char 41), n₇, t₇⟩, ⟨.eof, n₈, t₈⟩] n₅) =
      .ok ([entrypointExpr], st.at ⟨.symbol (.char 41), n₇, t₇⟩ [⟨.eof, n₈, t₈⟩] n₆) :=
    readExprs_of_suffixed (st.at _ _ n₅) (deeper.at _ _ n₆) ⟨entrypointExpr, none⟩ rfl hdepth
      hargument rfl rfl rfl
  rw [readArgs]
  show (readExprs (k + 7) >>= fun args ↦ expectClosing (.char 41) (.char 40) n₅ >>= fun _ ↦
    lastLine >>= fun last ↦ pure (args.map (settleAt last), n₅) : Parse (List Expr × Nat))
    (st.at ⟨.name "entrypoint".toUTF8, n₆, t₆⟩ _ n₅) = _
  rw [bind_of_ok harguments]
  rfl

/-- The coroutine, as it is made of the function of the macro. -/
def coroutineExpr (n₂ n₄ n₅ : Nat) : Expr :=
  .call (settleAt n₄ (coroutineField "create" n₂).expr) [entrypointExpr] n₅

theorem readSuffixed_create (hst : st.functions = [chunkBehind [entrypointVar] count])
    (hdepth : st.depth + 1 < depthLimit) :
    readSuffixed (k + 11) (st.at ⟨.name "coroutine".toUTF8, n₂, t₂⟩
      [⟨.symbol (.char 46), n₃, t₃⟩, ⟨.name "create".toUTF8, n₄, t₄⟩, ⟨.symbol (.char 40), n₅, t₅⟩,
      ⟨.name "entrypoint".toUTF8, n₆, t₆⟩, ⟨.symbol (.char 41), n₇, t₇⟩, ⟨.eof, n₈, t₈⟩] n₁) =
      .ok (⟨coroutineExpr n₂ n₄ n₅, none⟩, st.at ⟨.eof, n₈, t₈⟩ [] n₇) := by
  refine (readSuffixed_field hst ⟨rfl, findVar_entrypointVar (by decide),
    findVar_entrypointVar (by decide), by decide⟩).trans ?_
  rw [readSuffixes]
  show (readArgs (k + 8) >>= fun x ↦
      readSuffixes (k + 8) ⟨.call (settleAt n₄ (coroutineField "create" n₂).expr) x.1 x.2, none⟩ :
    Parse Operand) (st.at ⟨.symbol (.char 40), n₅, t₅⟩ _ n₄) = _
  rw [bind_of_ok (readArgs_entrypoint hst hdepth), readSuffixes]
  rfl

theorem readReturn_create (hst : st.functions = [chunkBehind [entrypointVar] count])
    (hdepth : st.depth + 2 < depthLimit) :
    readReturn (k + 16) (st.at ⟨.name "coroutine".toUTF8, n₂, t₂⟩
      [⟨.symbol (.char 46), n₃, t₃⟩, ⟨.name "create".toUTF8, n₄, t₄⟩, ⟨.symbol (.char 40), n₅, t₅⟩,
      ⟨.name "entrypoint".toUTF8, n₆, t₆⟩, ⟨.symbol (.char 41), n₇, t₇⟩, ⟨.eof, n₈, t₈⟩] n₁) =
      .ok (.tailCall (coroutineExpr n₂ n₄ n₅), st.at ⟨.eof, n₈, t₈⟩ [] n₇) := by
  let deeper : State := { st with depth := st.depth + 1 }
  have hdeeper : deeper.functions = [chunkBehind [entrypointVar] count] := hst
  have hvalues : readExprs (k + 15) (st.at ⟨.name "coroutine".toUTF8, n₂, t₂⟩
      [⟨.symbol (.char 46), n₃, t₃⟩, ⟨.name "create".toUTF8, n₄, t₄⟩, ⟨.symbol (.char 40), n₅, t₅⟩,
      ⟨.name "entrypoint".toUTF8, n₆, t₆⟩, ⟨.symbol (.char 41), n₇, t₇⟩, ⟨.eof, n₈, t₈⟩] n₁) =
      .ok ([coroutineExpr n₂ n₄ n₅], st.at ⟨.eof, n₈, t₈⟩ [] n₇) :=
    readExprs_of_suffixed (st.at _ _ n₁) (deeper.at ⟨.eof, n₈, t₈⟩ [] n₇) _ rfl
      (Nat.lt_of_succ_lt hdepth) (readSuffixed_create hdeeper hdepth) rfl rfl rfl
  rw [readReturn]
  show (readExprs (k + 15) >>= fun es ↦ lastLine >>= fun last ↦
    finishReturn (es.map (settleAt last)) : Parse Statement)
    (st.at ⟨.name "coroutine".toUTF8, n₂, t₂⟩ _ n₁) = _
  rw [bind_of_ok hvalues]
  have hcloses : ((st.functions.head?.getD {}).blocks.head?.map OpenBlock.closes).getD false =
      false := by
    rw [hst]
    rfl
  show Except.ok ((if ((st.functions.head?.getD {}).blocks.head?.map OpenBlock.closes).getD false
    then _ else _ : Statement), _) = _
  rw [hcloses]
  rfl

variable (k n₁ n₂ n₃ n₄ n₅ n₆ n₇ n₈ last t₁ t₂ t₃ t₄ t₅ t₆ t₇ t₈) in
theorem exists_readStatement_return (hst : st.functions = [chunkBehind [entrypointVar] count])
    (hdepth : st.depth + 2 < depthLimit) :
    ∃ s, readStatement (k + 17)
        (inFrontOfReturn n₁ n₂ n₃ n₄ n₅ n₆ n₇ n₈ last t₁ t₂ t₃ t₄ t₅ t₆ t₇ t₈ st) =
        .ok (some s, st.at ⟨.eof, n₈, t₈⟩ [] n₇) ∧
      answersCoroutine 1 s = true := by
  refine ⟨.tailCall (coroutineExpr n₂ n₄ n₅), ?_, rfl⟩
  rw [readStatement]
  show (readReturn (k + 16) >>= fun r ↦ pure (some r) : Parse (Option Statement)) _ = _
  exact bind_of_ok (readReturn_create hst hdepth) _

variable (k n₁ n₂ n₃ n₄ n₅ n₆ n₇ n₈ last t₁ t₂ t₃ t₄ t₅ t₆ t₇ t₈) in
theorem exists_readStatements_return (hst : st.functions = [chunkBehind [entrypointVar] count])
    (hdepth : st.depth + 3 < depthLimit) :
    ∃ s, answersCoroutine 1 s = true ∧ readStatements (k + 18)
        (inFrontOfReturn n₁ n₂ n₃ n₄ n₅ n₆ n₇ n₈ last t₁ t₂ t₃ t₄ t₅ t₆ t₇ t₈ st) =
      .ok ([s], State.at { st with functions := [chunkBehind [entrypointVar] (count + 1)] }
        ⟨.eof, n₈, t₈⟩ [] n₇) := by
  let deeper : State := { st with depth := st.depth + 1 }
  obtain ⟨s, hs, hanswers⟩ := exists_readStatement_return k n₁ n₂ n₃ n₄ n₅ n₆ n₇ n₈ last
    t₁ t₂ t₃ t₄ t₅ t₆ t₇ t₈ (show deeper.functions = [chunkBehind [entrypointVar] count] from hst)
    hdepth
  have hnested := nested_of_ok
    (inFrontOfReturn n₁ n₂ n₃ n₄ n₅ n₆ n₇ n₈ last t₁ t₂ t₃ t₄ t₅ t₆ t₇ t₈ st)
    (Nat.lt_of_succ_lt (Nat.lt_of_succ_lt hdepth)) hs
  refine ⟨s, hanswers, ?_⟩
  obtain ⟨current, rest, fault, last', functions, depth, source⟩ := st
  obtain rfl : functions = [chunkBehind [entrypointVar] count] := hst
  rw [readStatements]
  show (nested (readStatement (k + 17)) >>= finishStatements (k + 17)) _ = _
  rw [bind_of_ok hnested]
  rfl

end Return

end Statements

end MacroStream.Script.Parser
