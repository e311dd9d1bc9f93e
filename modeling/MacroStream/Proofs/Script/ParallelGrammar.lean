import MacroStream.Proofs.Script.ParallelReading

/-!
# Parts of the grammar that go side by side

All parts of the grammar go side by side with themselves, by induction on the bound for the parser
(`agrees`): for each part there is the step from smaller bounds, and it follows the part as it is
defined.
-/

namespace MacroStream.Script.Parser

/-- All that is read with a certain bound goes side by side with itself. -/
structure Agrees (n : Nat) : Prop where
  exprs {l p} : Agree l l p (readExprs n) (readExprs n)
  expr {l p} : Agree l l p (readExpr n) (readExpr n)
  operators {l p} (limit : Nat) : Agree l l p (readOperators n limit) (readOperators n limit)
  infixes {l p} (limit : Nat) (e e' : Expr) :
    Agree l l p (readInfix n limit e) (readInfix n limit e')
  simple {l p} : Agree l l p (readSimple n) (readSimple n)
  primary {l p} : Agree l l p (readPrimary n) (readPrimary n)
  suffixed {l p} : Agree l l p (readSuffixed n) (readSuffixed n)
  suffixes {l p} (o o' : Operand) : Agree l l p (readSuffixes n o) (readSuffixes n o')
  args {l p} : Agree l l p (readArgs n) (readArgs n)
  table {l p} : Agree l l p (readTable n) (readTable n)
  items {l p} (acc acc' : List TableItem) : Agree l l p (readItems n acc) (readItems n acc')
  item {l p} : Agree l l p (readItem n) (readItem n)
  body {l p} (isMethod isMethod' : Bool) (start start' : Nat) :
    Agree l l p (readBody n isMethod start) (readBody n isMethod' start')
  statements {l p} : Agree l l p (readStatements n) (readStatements n)
  block {l p} (isLoop : Bool) (vars vars' : List Var) :
    Agree l l p (readBlock n isLoop vars) (readBlock n isLoop vars')
  statement {l p} : Agree l l p (readStatement n) (readStatement n)
  /-- What is behind the word `return` is a statement. -/
  returning {l} : Agree l l (· = .symbol .kReturn) (readStatement n) (readStatement n)
    fun s? s?' ↦ s?.isSome = true ∧ s?'.isSome = true
  empty {l p} : Agree l l p (skipEmpty n) (skipEmpty n)
  condition {l t} (ht : t ≠ .eof) (start start' : Nat) :
    Agree l l (· = t) (readIf n start) (readIf n start')
  loop {l t} (ht : t ≠ .eof) (start start' : Nat) :
    Agree l l (· = t) (readFor n start) (readFor n start')
  function {l p} (start start' : Nat) : Agree l l p (readFunction n start) (readFunction n start')
  functionName {l p} (o o' : Operand) :
    Agree l l p (readFunctionName n o) (readFunctionName n o')
  locals {l p} : Agree l l p (readLocal n) (readLocal n)
  returned {l p} : Agree l l p (readReturn n) (readReturn n)
  exprStatement {l p} : Agree l l p (readExprStatement n) (readExprStatement n)
  assignment {l p} (o o' : Operand) (os os' : List Operand) :
    Agree l l p (readAssignment n (o :: os)) (readAssignment n (o' :: os'))

namespace Agrees

variable {n l : Nat} {p : Token → Prop}

/-! #### Expressions -/

theorem exprs_succ (h : Agrees n) : Agree l l p (readExprs (n + 1)) (readExprs (n + 1)) := by
  rw [readExprs]
  exact h.expr.bind fun _ _ ↦ .accept (by decide)
    (.quiet (.settle _) (.settle _) fun _ _ ↦ h.exprs.bind fun _ _ ↦ .done) .done

theorem expr_succ (h : Agrees n) : Agree l l p (readExpr (n + 1)) (readExpr (n + 1)) := by
  rw [readExpr]
  exact h.operators 0

theorem operators_succ (h : Agrees n) (limit : Nat) :
    Agree l l p (readOperators (n + 1) limit) (readOperators (n + 1) limit) := by
  rw [readOperators]
  have hsimple {p : Token → Prop} :
      Agree l l p (readSimple n >>= readInfix n limit) (readSimple n >>= readInfix n limit) :=
    h.simple.bind fun _ _ ↦ h.infixes limit _ _
  refine .nested (.token (fun t ht ↦ ?_) (fun _ _ ↦ hsimple) hsimple)
  split
  case h_1 =>
    exact .quiet .line .line fun _ _ ↦ .bind (.next ht) fun _ _ ↦ (h.operators _).bind fun _ _ ↦
      .quiet (.settle _) (.settle _) fun _ _ ↦ h.infixes limit _ _
  case h_2 => exact hsimple

theorem infixes_succ (h : Agrees n) (limit : Nat) (e e' : Expr) :
    Agree l l p (readInfix (n + 1) limit e) (readInfix (n + 1) limit e') := by
  rw [readInfix, readInfix]
  refine .token (fun t ht ↦ ?_) (fun _ _ ↦ .done) .done
  split
  case h_1 =>
    refine .ite .done (.quiet .line .line fun _ _ ↦ .bind (.next ht) fun _ _ ↦ ?_)
    exact .quiet (.settle _) (.settle _) fun _ _ ↦ (h.operators _).bind fun _ _ ↦
      .quiet (.settle _) (.settle _) fun _ _ ↦ .quiet .lastLine .lastLine fun _ _ ↦
        h.infixes limit _ _
  case h_2 => exact .done

theorem simple_succ (h : Agrees n) : Agree l l p (readSimple (n + 1)) (readSimple (n + 1)) := by
  rw [readSimple]
  have hsuffixed {p : Token → Prop} : Agree l l p (readSuffixed n >>= fun o ↦ pure o.expr)
      (readSuffixed n >>= fun o ↦ pure o.expr) :=
    h.suffixed.bind fun _ _ ↦ .done
  refine .token (fun t ht ↦ ?_) (fun _ _ ↦ .bind (.next Token.noConfusion) fun _ _ ↦ .done) hsuffixed
  split
  case h_7 =>
    exact .quiet .function .function fun _ _ ↦ .ite_fails (.bind (.next ht) fun _ _ ↦ .done)
      ((fails_failNear _).bind _) ((fails_failNear _).bind _)
  case h_8 => exact h.table
  case h_9 =>
    exact .quiet .line .line fun _ _ ↦ .bind (.next ht) fun _ _ ↦
      (h.body _ _ _ _).bind fun _ _ ↦ .done
  case h_10 => exact hsuffixed
  all_goals exact .bind (.next ht) fun _ _ ↦ .done

theorem primary_succ (h : Agrees n) : Agree l l p (readPrimary (n + 1)) (readPrimary (n + 1)) := by
  rw [readPrimary]
  refine .token (fun t ht ↦ ?_) (fun _ _ ↦ .of_fails (fails_failNear _))
    (.of_fails (fails_failNear _))
  split
  case h_1 => exact .bind (.next ht) fun _ _ ↦ .of_quiet (.nameOperand _) (.nameOperand _)
  case h_2 =>
    exact .quiet .line .line fun _ _ ↦ .bind (.next ht) fun _ _ ↦ h.expr.bind fun _ _ ↦
      .bind (.expectClosing _ _ _ _) fun _ _ ↦ .quiet (.settle _) (.settle _) fun _ _ ↦ .done
  case h_3 => exact .of_fails (fails_failNear _)

theorem suffixed_succ (h : Agrees n) :
    Agree l l p (readSuffixed (n + 1)) (readSuffixed (n + 1)) := by
  rw [readSuffixed]
  exact h.primary.bind fun _ _ ↦ h.suffixes _ _

theorem suffixes_succ (h : Agrees n) (o o' : Operand) :
    Agree l l p (readSuffixes (n + 1) o) (readSuffixes (n + 1) o') := by
  rw [readSuffixes, readSuffixes]
  have hcall {p : Token → Prop} : Agree l l p
      (settle o.expr >>= fun e ↦ readArgs n >>= fun x ↦
        readSuffixes n ⟨.call e x.1 x.2, none⟩)
      (settle o'.expr >>= fun e ↦ readArgs n >>= fun x ↦
        readSuffixes n ⟨.call e x.1 x.2, none⟩) :=
    .quiet (.settle _) (.settle _) fun _ _ ↦ h.args.bind fun _ _ ↦ h.suffixes _ _
  refine .token (fun t ht ↦ ?_) (fun _ _ ↦ hcall) .done
  split
  case h_1 =>
    exact .quiet (.settle _) (.settle _) fun _ _ ↦ .bind (.next ht) fun _ _ ↦
      .bind .expectName fun _ _ ↦ h.suffixes _ _
  case h_2 =>
    exact .quiet (.settle _) (.settle _) fun _ _ ↦ .bind (.next ht) fun _ _ ↦
      h.expr.bind fun _ _ ↦ .quiet (.settle _) (.settle _) fun _ _ ↦
        .bind (.expect _) fun _ _ ↦ h.suffixes _ _
  case h_3 =>
    exact .bind (.next ht) fun _ _ ↦ .bind .expectName fun _ _ ↦
      .quiet .lastLine .lastLine fun _ _ ↦ .quiet (.settle _) (.settle _) fun _ _ ↦
      h.args.bind fun _ _ ↦ h.suffixes _ _
  case h_4 => exact hcall
  case h_5 => exact hcall
  case h_6 => exact hcall
  case h_7 => exact .done

theorem args_succ (h : Agrees n) : Agree l l p (readArgs (n + 1)) (readArgs (n + 1)) := by
  rw [readArgs]
  refine .quiet .line .line fun _ _ ↦ .token (fun t ht ↦ ?_)
    (fun _ _ ↦ .bind (.next Token.noConfusion) fun _ _ ↦ .done) (.of_fails (fails_failNear _))
  split
  case h_1 => exact .bind (.next ht) fun _ _ ↦ .done
  case h_2 => exact h.table.bind fun _ _ ↦ .done
  case h_3 =>
    exact .bind (.next ht) fun _ _ ↦ .accept (by decide) .done (h.exprs.bind fun _ _ ↦
      .bind (.expectClosing _ _ _ _) fun _ _ ↦ .quiet .lastLine .lastLine fun _ _ ↦ .done)
  case h_4 => exact .of_fails (fails_failNear _)

theorem table_succ (h : Agrees n) : Agree l l p (readTable (n + 1)) (readTable (n + 1)) := by
  rw [readTable]
  exact .quiet .line .line fun _ _ ↦ .bind (.expect _) fun _ _ ↦ (h.items _ _).bind fun _ _ ↦
    .bind (.expectClosing _ _ _ _) fun _ _ ↦ .quiet .lastLine .lastLine fun _ _ ↦ .done

theorem items_succ (h : Agrees n) (acc acc' : List TableItem) :
    Agree l l p (readItems (n + 1) acc) (readItems (n + 1) acc') := by
  rw [readItems, readItems]
  exact .at' (by decide) .done (.bind h.item fun _ _ ↦ .acceptSeparator
    (.quiet .lastLine .lastLine fun _ _ ↦ h.items _ _) .done)

/-- Reads a value behind a name and an equals sign. -/
def readField (n : Nat) (name : Name) : Parse TableItem := do
  let e ← settle (← readExpr n)
  return .field (.str name) e (← lastLine)

theorem item_succ (h : Agrees n) : Agree l l p (readItem (n + 1)) (readItem (n + 1)) := by
  rw [readItem]
  have hitem {p : Token → Prop} : Agree l l p (readExpr n >>= fun e ↦ pure (TableItem.item e))
      (readExpr n >>= fun e ↦ pure (TableItem.item e)) :=
    .bind h.expr fun _ _ ↦ .done
  refine .token (fun t ht ↦ ?_) (fun _ _ ↦ hitem) hitem
  split
  case h_1 name =>
    have hfield : Agree l l (· = .name name)
        (next >>= fun _ ↦ expect (.char 61) >>= fun _ ↦ readField n name)
        (next >>= fun _ ↦ expect (.char 61) >>= fun _ ↦ readField n name) :=
      .bind (.next ht) fun _ _ ↦ .bind (.expect _) fun _ _ ↦ .bind h.expr fun _ _ ↦
        .quiet (.settle _) (.settle _) fun _ _ ↦ .quiet .lastLine .lastLine fun _ _ ↦ .done
    refine .equals_behind ht hfield hitem ?_ ?_
    all_goals
      rintro ⟨current, rest, fault, last, functions, depth, source⟩ r h
      obtain ⟨_, _, hget, h⟩ := bind_eq_ok_iff.1 h
      obtain ⟨rfl, rfl⟩ := Prod.mk.inj (Except.ok.inj hget)
      cases rest with
      | nil =>
        cases fault with
        | none => exact h
        | some fault => cases h
      | cons t ts =>
        have hbehind :
            State.equalsBehind ⟨current, t :: ts, fault, last, functions, depth, source⟩ =
              isSymbol (.char 61) t.token := rfl
        rw [hbehind]
        dsimp only at h
        split at h
        case isFalse hequals =>
          rw [if_neg hequals]
          exact h
        case isTrue hequals =>
          rw [if_pos hequals, bind_of_ok rfl]
          obtain ⟨e, st₂, hnext, h⟩ := bind_eq_ok_iff.1 h
          obtain ⟨-, rfl⟩ := Prod.mk.inj (Except.ok.inj hnext)
          obtain ⟨_, st₃, hnext, h⟩ := bind_eq_ok_iff.1 h
          rw [bind_of_ok ((expect_eq_next hequals).trans hnext)]
          exact h
  case h_2 =>
    exact .bind (.next ht) fun _ _ ↦ .bind h.expr fun _ _ ↦ .quiet (.settle _) (.settle _) fun _ _ ↦
      .bind (.expect _) fun _ _ ↦ .bind (.expect _) fun _ _ ↦ .bind h.expr fun _ _ ↦
      .quiet (.settle _) (.settle _) fun _ _ ↦ .quiet .lastLine .lastLine fun _ _ ↦ .done
  case h_3 => exact hitem

/-! #### Functions -/

theorem body_succ (h : Agrees n) (isMethod isMethod' : Bool) (start start' : Nat) :
    Agree l l p (readBody (n + 1) isMethod start) (readBody (n + 1) isMethod' start') := by
  rw [readBody, readBody]
  refine .bind (.openFunction _ _) fun _ _ ↦ .quiet (.enterBlock _) (.enterBlock _) fun _ _ ↦
    .bind (.expect _) fun _ _ ↦ ?_
  extract_lets self behind self' behind'
  have hbehind (x x') : Agree (l + 1) l anywhere (behind x) (behind' x') := by
    refine .quiet (.declare _) (.declare _) fun _ _ ↦ .quiet (.modifyFunction _)
      (.modifyFunction _) fun _ _ ↦ .bind (.expect _) fun _ _ ↦ .bind h.statements fun _ _ ↦
      .quiet .line .line fun _ _ ↦ .bind (.expectClosing _ _ _ _) fun _ _ ↦
      .quiet .leaveBlock .leaveBlock fun _ _ ↦ .quiet .function .function fun _ _ ↦
      .bind .closeFunction fun _ _ ↦ .quiet .get .get fun _ _ ↦ .done
  exact .at' (by decide) (.quiet (.pure _) (.pure _) fun _ _ ↦ (hbehind _ _).of_anywhere)
    (.bind (.readParams _ _ _) fun _ _ ↦ .quiet (.pure _) (.pure _) fun _ _ ↦ hbehind _ _)

/-! #### Statements -/

theorem statements_succ (h : Agrees n) :
    Agree l l p (readStatements (n + 1)) (readStatements (n + 1)) := by
  rw [readStatements]
  refine .blockEnds true fun _ ↦ .ite .done (.at' (by decide) ?_ ?_)
  · refine .bind_of h.returning.nested fun s? s?' hs ↦ ?_
    obtain ⟨s, rfl⟩ := Option.isSome_iff_exists.1 hs.1
    obtain ⟨s', rfl⟩ := Option.isSome_iff_exists.1 hs.2
    exact .quiet (.modifyBlock _) (.modifyBlock _) fun _ _ ↦
      .ite .done (.bind h.statements fun _ _ ↦ .done)
  · -- A statement that only matters while reading is not counted.
    refine .bind h.statement.nested fun s? s?' ↦ ?_
    cases s? with
    | none =>
      cases s?' with
      | none => exact h.statements
      | some s' => exact .quiet_right (.modifyBlock _) fun _ ↦ .map_right h.statements _
    | some s =>
      refine .quiet_left (.modifyBlock _) fun _ ↦ ?_
      cases s?' with
      | none => exact .map_left h.statements _
      | some s' =>
        exact .quiet_right (.modifyBlock _) fun _ ↦ .bind h.statements fun _ _ ↦ .done

theorem block_succ (h : Agrees n) (isLoop : Bool) (vars vars' : List Var) :
    Agree l l p (readBlock (n + 1) isLoop vars) (readBlock (n + 1) isLoop vars') := by
  rw [readBlock, readBlock]
  exact .quiet (.enterBlock _) (.enterBlock _) fun _ _ ↦ .quiet (.declare _) (.declare _) fun _ _ ↦
    .bind h.statements fun _ _ ↦ .quiet .leaveBlock .leaveBlock fun _ _ ↦ .done

theorem function_succ (h : Agrees n) (start start' : Nat) :
    Agree l l p (readFunction (n + 1) start) (readFunction (n + 1) start') := by
  rw [readFunction, readFunction]
  refine .bind .expectName fun _ _ ↦ .quiet (.nameOperand _) (.nameOperand _) fun _ _ ↦
    .bind (h.functionName _ _) fun x x' ↦ .bind (h.body _ _ _ _) fun _ _ ↦
    .quiet (.checkAssignable _) (.checkAssignable _) fun _ _ ↦ .of_quiet ?_ ?_
  all_goals
    split
    · exact .pure _
    · exact .failNear _

theorem functionName_succ (h : Agrees n) (o o' : Operand) :
    Agree l l p (readFunctionName (n + 1) o) (readFunctionName (n + 1) o') := by
  rw [readFunctionName, readFunctionName]
  refine .at' (by decide) ?_ (.at' (by decide) ?_ .done)
  · exact .quiet (.settle _) (.settle _) fun _ _ ↦ .bind (.next Token.noConfusion) fun _ _ ↦
      .bind .expectName fun _ _ ↦ h.functionName _ _
  · exact .quiet (.settle _) (.settle _) fun _ _ ↦ .bind (.next Token.noConfusion) fun _ _ ↦
      .bind .expectName fun _ _ ↦ .done

theorem condition_succ (h : Agrees n) {t : Token} (ht : t ≠ .eof) (start start' : Nat) :
    Agree l l (· = t) (readIf (n + 1) start) (readIf (n + 1) start') := by
  rw [readIf, readIf]
  refine .bind (.next ht) fun _ _ ↦ .bind h.expr fun _ _ ↦ .bind (.expect _) fun _ _ ↦
    .quiet (.settle _) (.settle _) fun _ _ ↦ .bind (h.block _ _ _) fun _ _ ↦
    .at' (by decide) (.bind (h.condition Token.noConfusion _ _) fun _ _ ↦ .done) (.accept (by decide) ?_ ?_)
  · exact .bind (h.block _ _ _) fun _ _ ↦ .bind (.expectClosing _ _ _ _) fun _ _ ↦ .done
  · exact .bind (.expectClosing _ _ _ _) fun _ _ ↦ .done

theorem loop_succ (h : Agrees n) {t : Token} (ht : t ≠ .eof) (start start' : Nat) :
    Agree l l (· = t) (readFor (n + 1) start) (readFor (n + 1) start') := by
  rw [readFor, readFor]
  refine .quiet (.enterBlock _) (.enterBlock _) fun _ _ ↦ .bind (.next ht) fun _ _ ↦
    .bind .expectName fun name name' ↦ .token (fun t ht ↦ ?_)
      (fun _ _ ↦ .of_fails (fails_failNear _)) (.of_fails (fails_failNear _))
  split
  case h_1 =>
    refine .quiet (.checkVars _) (.checkVars _) fun _ _ ↦ .bind (.next ht) fun _ _ ↦
      .bind h.expr fun _ _ ↦ .bind (.expect _) fun _ _ ↦ .quiet (.settle _) (.settle _) fun _ _ ↦
      .bind h.expr fun _ _ ↦ .quiet (.settle _) (.settle _) fun _ _ ↦ .accept_any (by decide) fun _ ↦ ?_
    extract_lets behind behind'
    have hbehind (step step' : Option Expr) : Agree l l anywhere (behind step) (behind' step') :=
      .quiet (.declare _) (.declare _) fun _ _ ↦ .bind (.expect _) fun _ _ ↦
        .quiet .lastLine .lastLine fun _ _ ↦ .bind (h.block _ _ _) fun _ _ ↦
        .bind (.expectClosing _ _ _ _) fun _ _ ↦ .quiet .leaveBlock .leaveBlock fun _ _ ↦ .done
    exact .ite (.bind h.expr fun _ _ ↦ .quiet (.settle _) (.settle _) fun _ _ ↦
      .quiet (.pure _) (.pure _) hbehind) (.quiet (.pure _) (.pure _) hbehind)
  case h_4 => exact .of_fails (fails_failNear _)
  -- The two words behind which there are the values.
  all_goals
    exact .quiet (.checkVars _) (.checkVars _) fun _ _ ↦ .bind (.moreNames _ _ _) fun _ _ ↦
      .bind (.expect _) fun _ _ ↦ .bind h.exprs fun _ _ ↦ .quiet .lastLine .lastLine fun _ _ ↦
      .quiet (.declare _) (.declare _) fun _ _ ↦ .quiet (.modifyBlock _) (.modifyBlock _) fun _ _ ↦
      .bind (.expect _) fun _ _ ↦ .bind (h.block _ _ _) fun _ _ ↦
      .bind (.expectClosing _ _ _ _) fun _ _ ↦ .quiet .leaveBlock .leaveBlock fun _ _ ↦ .done

theorem locals_succ (h : Agrees n) : Agree l l p (readLocal (n + 1)) (readLocal (n + 1)) := by
  rw [readLocal]
  refine .bind (.readNames _ _ _) fun names names' ↦ .accept_any (by decide) fun _ ↦ ?_
  extract_lets vars behind vars' behind'
  have hquiet : (∀ values, Quiet (behind values)) ∧ ∀ values, Quiet (behind' values) := by
    constructor
    all_goals
      refine fun values ↦ .bind .lastLine fun last ↦ ?_
      extract_lets _ declared
      have hdeclared (u : Unit) : Quiet (declared u) := by
        dsimp only [declared]
        split
        · exact .ite (.bind (.declare _) fun _ ↦ .ite (.pure _) (.pure _))
            (.bind (.declare _) fun _ ↦ .pure _)
        · exact .bind (.declare _) fun _ ↦ .pure _
      exact .ite (.bind (.modifyBlock _) hdeclared) (hdeclared ())
  have hbehind (values values' : List Expr) :
      Agree l l anywhere (behind values) (behind' values') :=
    .of_quiet (hquiet.1 values) (hquiet.2 values')
  exact .ite (.bind h.exprs hbehind) (.quiet (.pure _) (.pure _) hbehind)

theorem returned_succ (h : Agrees n) : Agree l l p (readReturn (n + 1)) (readReturn (n + 1)) := by
  rw [readReturn]
  refine .blockEnds true fun _ ↦ .at_any (by decide) fun _ ↦ ?_
  extract_lets behind
  have hbehind (values values' : List Expr) :
      Agree l l anywhere (behind values) (behind values') := by
    refine .accept_any (by decide) fun _ ↦ .of_quiet (.bind .function fun _ ↦ ?_)
      (.bind .function fun _ ↦ ?_)
    all_goals
      dsimp only
      split <;> exact .pure _
  exact .ite (.quiet (.pure _) (.pure _) hbehind) (.bind h.exprs fun _ _ ↦
    .quiet .lastLine .lastLine fun _ _ ↦ .quiet (.pure _) (.pure _) hbehind)

theorem exprStatement_succ (h : Agrees n) :
    Agree l l p (readExprStatement (n + 1)) (readExprStatement (n + 1)) := by
  rw [readExprStatement]
  refine .bind h.suffixed fun o o' ↦ .at_any (by decide) fun _ ↦ .at_any (by decide) fun _ ↦
    .ite (h.assignment o o' [] []) (.of_quiet ?_ ?_)
  all_goals
    split
    · exact .pure _
    · exact .pure _
    · exact .failNear _

theorem assignment_succ (h : Agrees n) (o o' : Operand) (os os' : List Operand) :
    Agree l l p (readAssignment (n + 1) (o :: os)) (readAssignment (n + 1) (o' :: os')) := by
  rw [readAssignment, readAssignment]
  refine .ite_fails ?_ ((fails_failNear _).bind _) ((fails_failNear _).bind _)
  refine .quiet (.checkAssignable _) (.checkAssignable _) fun _ _ ↦ .accept (by decide) ?_ ?_
  · exact .bind h.suffixed fun _ _ ↦ .nested (h.assignment _ _ _ _)
  · exact .bind (.expect _) fun _ _ ↦ .bind h.exprs fun _ _ ↦
      .quiet .lastLine .lastLine fun _ _ ↦ .done

theorem empty_succ (h : Agrees n) : Agree l l p (skipEmpty (n + 1)) (skipEmpty (n + 1)) := by
  rw [skipEmpty]
  exact .at_any (by decide) fun _ ↦ .at_any (by decide) fun _ ↦
    .ite (.bind h.statement.nested fun _ _ ↦ h.empty) .done

theorem statement_succ (h : Agrees n) :
    Agree l l p (readStatement (n + 1)) (readStatement (n + 1)) := by
  rw [readStatement]
  have hother {p : Token → Prop} : Agree l l p (readExprStatement n >>= fun s ↦ pure (some s))
      (readExprStatement n >>= fun s ↦ pure (some s)) :=
    .bind h.exprStatement fun _ _ ↦ .done
  refine .quiet .line .line fun start start' ↦ .token (fun t ht ↦ ?_) (fun _ _ ↦ hother) hother
  split
  case h_1 => exact .bind (.next ht) fun _ _ ↦ .done
  case h_2 => exact .bind (h.condition ht _ _) fun _ _ ↦ .done
  case h_3 =>
    exact .bind (.next ht) fun _ _ ↦ .bind h.expr fun _ _ ↦ .quiet (.settle _) (.settle _) fun _ _ ↦
      .bind (.expect _) fun _ _ ↦ .bind (h.block _ _ _) fun _ _ ↦
      .bind (.expectClosing _ _ _ _) fun _ _ ↦ .done
  case h_4 =>
    exact .bind (.next ht) fun _ _ ↦ .bind (h.block _ _ _) fun _ _ ↦
      .bind (.expectClosing _ _ _ _) fun _ _ ↦ .done
  case h_5 => exact .bind (h.loop ht _ _) fun _ _ ↦ .done
  case h_6 =>
    exact .bind (.next ht) fun _ _ ↦ .quiet (.enterBlock _) (.enterBlock _) fun _ _ ↦
      .quiet (.enterBlock _) (.enterBlock _) fun _ _ ↦ .bind h.statements fun _ _ ↦
      .bind (.expectClosing _ _ _ _) fun _ _ ↦ .bind h.expr fun _ _ ↦
      .quiet (.settle _) (.settle _) fun _ _ ↦ .quiet .leaveBlock .leaveBlock fun _ _ ↦
      .quiet .leaveBlock .leaveBlock fun _ _ ↦ .done
  case h_7 => exact .bind (.next ht) fun _ _ ↦ .bind (h.function _ _) fun _ _ ↦ .done
  case h_8 =>
    refine .bind (.next ht) fun _ _ ↦ .accept (by decide) (.bind .expectName fun _ _ ↦ ?_) h.locals
    exact .quiet (.checkVars _) (.checkVars _) fun _ _ ↦ .quiet (.declare _) (.declare _) fun _ _ ↦
      .quiet .line .line fun _ _ ↦ .bind (h.body _ _ _ _) fun _ _ ↦ .done
  case h_9 =>
    refine .bind (.next ht) fun _ _ ↦ .bind .expectName fun _ _ ↦ .bind (.expect _) fun _ _ ↦
      .bind h.empty fun _ _ ↦ .of_quiet (.bind .function fun _ ↦ ?_) (.bind .function fun _ ↦ ?_)
    all_goals
      dsimp only
      split
      · exact .bind (.failPlain _) fun _ ↦ .pure _
      · exact .bind (.blockEnds _) fun _ ↦ .bind (.placeLabel _ _ _) fun _ ↦ .pure _
  case h_10 => exact .bind (.next ht) fun _ _ ↦ .bind h.returned fun _ _ ↦ .done
  case h_11 =>
    exact .bind (.next ht) fun _ _ ↦ .quiet (.addJump _ _) (.addJump _ _) fun _ _ ↦ .done
  case h_12 =>
    refine .bind (.next ht) fun _ _ ↦ .bind .expectName fun _ _ ↦
      .of_quiet (.bind .function fun _ ↦ ?_) (.bind .function fun _ ↦ ?_)
    all_goals exact .ite (.bind (.addJump _ _) fun _ ↦ .pure _) (.pure _)
  case h_13 => exact hother

theorem returning_succ (h : Agrees n) : Agree l l (· = .symbol .kReturn) (readStatement (n + 1))
    (readStatement (n + 1)) fun s? s?' ↦ s?.isSome = true ∧ s?'.isSome = true := by
  rw [readStatement]
  refine .quiet .line .line fun start start' ↦ .token_eq ?_
  exact .bind (.next Token.noConfusion) fun _ _ ↦ .bind h.returned fun _ _ ↦ .done_of ⟨rfl, rfl⟩

theorem zero : Agrees 0 := by
  constructor
  all_goals
    intros
    simp only [readExprs, readExpr, readOperators, readInfix, readSimple, readPrimary, readSuffixed,
      readSuffixes, readArgs, readTable, readItems, readItem, readBody, readStatements, readBlock,
      readStatement, skipEmpty, readIf, readFor, readFunction, readFunctionName, readLocal,
      readReturn, readExprStatement, readAssignment]
    exact .of_fails (fails_throw _)

theorem succ (h : Agrees n) : Agrees (n + 1) where
  exprs := h.exprs_succ
  expr := h.expr_succ
  operators := h.operators_succ
  infixes := h.infixes_succ
  simple := h.simple_succ
  primary := h.primary_succ
  suffixed := h.suffixed_succ
  suffixes := h.suffixes_succ
  args := h.args_succ
  table := h.table_succ
  items := h.items_succ
  item := h.item_succ
  body := h.body_succ
  statements := h.statements_succ
  block := h.block_succ
  statement := h.statement_succ
  returning := h.returning_succ
  empty := h.empty_succ
  condition := h.condition_succ
  loop := h.loop_succ
  function := h.function_succ
  functionName := h.functionName_succ
  locals := h.locals_succ
  returned := h.returned_succ
  exprStatement := h.exprStatement_succ
  assignment := h.assignment_succ

end Agrees

/-- **Readings that go side by side.** Whatever is read of the grammar at two places, the same
tokens are taken at both. -/
theorem agrees (n : Nat) : Agrees n := by
  induction n with
  | zero => exact .zero
  | succ n ih => exact ih.succ

end MacroStream.Script.Parser
