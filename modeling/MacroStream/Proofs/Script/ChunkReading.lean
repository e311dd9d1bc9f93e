import MacroStream.Script.Parser

/-!
# Reading in a chunk

How the parser reads the names and the plain expressions of a chunk, when it is known what is in
front of it. In a chunk all names that are not declared are those of global variables
(`IsGlobal`).
-/

namespace MacroStream.Script.Parser

variable {α β : Type} {fn : OpenFunction} {k : Nat} {s field : Name} {n₁ n₂ n₃ last : Nat}
  {t₁ t₂ t₃ : ByteArray} {l : Lexeme} {ls : List Lexeme} {st st' st'' : State} {o : Operand}

/-! ### Sequences -/

theorem bind_of_ok {x : Parse α} {a : α} (hx : x st = .ok (a, st')) (f : α → Parse β) :
    (x >>= f) st = f a st' := by
  show Except.bind (x st) _ = _
  rw [hx]
  rfl

theorem nested_of_ok {x : Parse α} {a : α} (st : State) (hdepth : st.depth + 1 < depthLimit)
    (hx : x { st with depth := st.depth + 1 } = .ok (a, st')) :
    nested x st = .ok (a, { st' with depth := st'.depth - 1 }) := by
  have hnested : nested x st = (if st.depth + 1 ≥ depthLimit then .error .tooDeep
      else Except.bind (x { st with depth := st.depth + 1 }) fun r ↦
        .ok (r.1, { r.2 with depth := r.2.depth - 1 })) := by
    show (ite _ _ _ : Parse α) st = _
    split <;> rfl
  rw [hnested, if_neg (Nat.not_le.2 hdepth), hx]
  rfl

/-! ### Names -/

/-- A name is that of a global variable in the function of a chunk: it is not declared, and neither
is the one under which global variables are found. -/
structure IsGlobal (s : Name) (fn : OpenFunction) : Prop where
  captures_eq : fn.captures = #[(envName, .scope 0, .regular)]
  findVar_eq : findVar s 0 fn.vars = none
  findVar_env : findVar envName 0 fn.vars = none
  ne : envName ≠ s

theorem resolve_of_resolveIn {r : Option Resolved} (hst : st.functions = [fn])
    (hr : resolveIn s [fn] = (r, [fn])) (hcaptures : fn.captures.size ≤ captureLimit) :
    resolve s st = .ok (r, st) := by
  obtain ⟨current, rest, fault, last, functions, depth, source⟩ := st
  obtain rfl : functions = [fn] := hst
  rw [resolve, bind_of_ok rfl]
  simp only [hr, List.find?_cons, List.find?_nil, decide_eq_false (Nat.not_lt.2 hcaptures)]
  rfl

theorem nameOperand_global (hst : st.functions = [fn]) (hs : IsGlobal s fn) :
    nameOperand s st = .ok (⟨.index (.captured envName 0) (.str s) 0, none⟩, st) := by
  have hsize : fn.captures.size ≤ captureLimit := by
    rw [hs.captures_eq]
    exact Nat.le_of_ble_eq_true rfl
  have hname : resolveIn s [fn] = (none, [fn]) := by
    simp [resolveIn, findCapture, hs.captures_eq, hs.findVar_eq, hs.ne]
  have henv : resolveIn envName [fn] = (some (.captured 0 .regular), [fn]) := by
    simp [resolveIn, findCapture, hs.captures_eq, hs.findVar_env]
  rw [nameOperand, bind_of_ok (resolve_of_resolveIn hst hname hsize)]
  show (resolve envName >>= _ : Parse Operand) st = _
  rw [bind_of_ok (resolve_of_resolveIn hst henv hsize)]
  rfl

/-! ### Expressions -/

/-- The parser in front of certain lexemes. -/
def State.at (st : State) (l : Lexeme) (ls : List Lexeme) (last : Nat) : State :=
  { st with current := l, rest := ls, lastLine := last }

variable (st st' o) in
/-- A name with what is behind it, and no operators. -/
theorem readExprs_of_suffixed (hname : st.current.token = .name s)
    (hdepth : st.depth + 1 < depthLimit)
    (h : readSuffixed k { st with depth := st.depth + 1 } = .ok (o, st'))
    (hoperator : infix? st'.current.token = none)
    (hcomma : isSymbol (.char 44) st'.current.token = false)
    (hst' : { st' with depth := st'.depth - 1 } = st'') :
    readExprs (k + 4) st = .ok ([o.expr], st'') := by
  subst hst'
  obtain ⟨⟨_, n, text⟩, rest, fault, last, functions, depth, source⟩ := st
  obtain rfl := hname
  have hsimple : readSimple (k + 1)
      ⟨⟨.name s, n, text⟩, rest, fault, last, functions, depth + 1, source⟩ =
        .ok (o.expr, st') := by
    rw [readSimple]
    show (readSuffixed k >>= fun o ↦ pure o.expr : Parse Expr) _ = _
    exact bind_of_ok h _
  have hoperator' (k : Nat) : readInfix (k + 1) 0 o.expr st' = .ok (o.expr, st') := by
    rw [readInfix, bind_of_ok (show token st' = .ok (st'.current.token, st') from rfl)]
    simp only [hoperator]
    rfl
  have hoperators : readOperators (k + 2) 0
      ⟨⟨.name s, n, text⟩, rest, fault, last, functions, depth, source⟩ =
        .ok (o.expr, { st' with depth := st'.depth - 1 }) := by
    rw [readOperators]
    refine nested_of_ok _ hdepth ?_
    show (readSimple (k + 1) >>= fun e ↦ readInfix (k + 1) 0 e : Parse Expr) _ = _
    rw [bind_of_ok hsimple]
    exact hoperator' k
  have haccept : accept (.char 44) { st' with depth := st'.depth - 1 } =
      .ok (false, { st' with depth := st'.depth - 1 }) := by
    rw [accept, bind_of_ok (show at' (.char 44) { st' with depth := st'.depth - 1 } =
      .ok (isSymbol (.char 44) st'.current.token, _) from rfl), hcomma]
    rfl
  rw [readExprs, readExpr, bind_of_ok hoperators, bind_of_ok haccept]
  rfl

theorem readPrimary_global (hst : st.functions = [fn]) (hs : IsGlobal s fn) :
    readPrimary (k + 1) (st.at ⟨.name s, n₁, t₁⟩ (l :: ls) last) =
      .ok (⟨.index (.captured envName 0) (.str s) 0, none⟩, st.at l ls n₁) := by
  rw [readPrimary]
  exact nameOperand_global hst hs

theorem readSuffixed_global (hst : st.functions = [fn]) (hs : IsGlobal s fn)
    (hl : l.token = .symbol (.char 61)) :
    readSuffixed (k + 3) (st.at ⟨.name s, n₁, t₁⟩ (l :: ls) last) =
      .ok (⟨.index (.captured envName 0) (.str s) 0, none⟩, st.at l ls n₁) := by
  obtain ⟨_, n, t⟩ := l
  obtain rfl := hl
  rw [readSuffixed, bind_of_ok (readPrimary_global hst hs), readSuffixes]
  rfl

theorem readSuffixed_field (hst : st.functions = [fn]) (hs : IsGlobal s fn) :
    readSuffixed (k + 3) (st.at ⟨.name s, n₁, t₁⟩
        (⟨.symbol (.char 46), n₂, t₂⟩ :: ⟨.name field, n₃, t₃⟩ :: l :: ls) last) =
      readSuffixes (k + 1) ⟨.index (.index (.captured envName 0) (.str s) n₁) (.str field) 0, none⟩
        (st.at l ls n₃) := by
  rw [readSuffixed, bind_of_ok (readPrimary_global hst hs), readSuffixes]
  rfl

end MacroStream.Script.Parser
