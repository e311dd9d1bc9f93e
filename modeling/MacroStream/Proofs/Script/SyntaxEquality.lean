import MacroStream.Script.Syntax

/-!
# Equal trees

Whether two trees are the same is found out by a walk through both. Floating-point constants are
never taken for the same, since they cannot be told apart by comparing them. So the answer `true`
says that the trees are equal (`FunctionBody.eq_of_same`), and nothing is said of `false`.

This is for trees that are read from a text: that they are certain trees can be computed.
-/

namespace MacroStream.Script

deriving instance DecidableEq for FunctionInfo

mutual

/-- Whether two expressions are the same. -/
def Expr.same : Expr → Expr → Bool
  | .nil, .nil | .true, .true | .false, .false | .vararg, .vararg => Bool.true
  | .int m, .int n => m = n
  | .str s, .str t => s = t
  | .scope x i, .scope y j | .captured x i, .captured y j => x = y && i = j
  | .index o k l, .index o' k' l' => o.same o' && k.same k' && l = l'
  | .call f es l, .call f' es' l' => f.same f' && sameExprs es es' && l = l'
  | .method o x es n l, .method o' x' es' n' l' =>
    o.same o' && x = x' && sameExprs es es' && n = n' && l = l'
  | .function b, .function b' => b.same b'
  | .binary op e₁ e₂ l, .binary op' e₁' e₂' l' => op = op' && e₁.same e₁' && e₂.same e₂' && l = l'
  | .concat es l, .concat es' l' => sameExprs es es' && l = l'
  | .unary op e l, .unary op' e' l' => op = op' && e.same e' && l = l'
  | .and e₁ e₂, .and e₁' e₂' | .or e₁ e₂, .or e₁' e₂' => e₁.same e₁' && e₂.same e₂'
  | .paren e, .paren e' => e.same e'
  | .table is l, .table is' l' => sameItems is is' && l = l'
  | _, _ => Bool.false

/-- Whether two lists of expressions are the same. -/
def sameExprs : List Expr → List Expr → Bool
  | [], [] => true
  | e :: es, e' :: es' => e.same e' && sameExprs es es'
  | _, _ => false

/-- Whether two parts of table constructors are the same. -/
def TableItem.same : TableItem → TableItem → Bool
  | .item e, .item e' => e.same e'
  | .field k e l, .field k' e' l' => k.same k' && e.same e' && l = l'
  | _, _ => false

/-- Whether two lists of parts of table constructors are the same. -/
def sameItems : List TableItem → List TableItem → Bool
  | [], [] => true
  | i :: is, i' :: is' => i.same i' && sameItems is is'
  | _, _ => false

/-- Whether two functions are the same. -/
def FunctionBody.same : FunctionBody → FunctionBody → Bool
  | .mk i b, .mk i' b' => i = i' && b.same b'

/-- Whether two targets are the same. -/
def Target.same : Target → Target → Bool
  | .scope i, .scope j | .captured i, .captured j => i = j
  | .index o k l, .index o' k' l' => o.same o' && k.same k' && l = l'
  | _, _ => false

/-- Whether two lists of targets are the same. -/
def sameTargets : List Target → List Target → Bool
  | [], [] => true
  | t :: ts, t' :: ts' => t.same t' && sameTargets ts ts'
  | _, _ => false

/-- Whether two statements are the same. -/
def Statement.same : Statement → Statement → Bool
  | .declare xs es l, .declare xs' es' l' => xs = xs' && sameExprs es es' && l = l'
  | .assign ts es l, .assign ts' es' l' => sameTargets ts ts' && sameExprs es es' && l = l'
  | .run e, .run e' | .until e, .until e' | .tailCall e, .tailCall e' => e.same e'
  | .scopeBlock b, .scopeBlock b' | .repeat b, .repeat b' => b.same b'
  | .while e b, .while e' b' => e.same e' && b.same b'
  | .if e b₁ b₂, .if e' b₁' b₂' => e.same e' && b₁.same b₁' && b₂.same b₂'
  | .forRange x e₁ e₂ (some e₃) b l, .forRange x' e₁' e₂' (some e₃') b' l' =>
    x = x' && e₁.same e₁' && e₂.same e₂' && e₃.same e₃' && b.same b' && l = l'
  | .forRange x e₁ e₂ none b l, .forRange x' e₁' e₂' none b' l' =>
    x = x' && e₁.same e₁' && e₂.same e₂' && b.same b' && l = l'
  | .forEach xs es b l, .forEach xs' es' b' l' =>
    xs = xs' && sameExprs es es' && b.same b' && l = l'
  | .declareFunction x b, .declareFunction x' b' => x = x' && b.same b'
  | .return es, .return es' => sameExprs es es'
  | .break, .break => true
  | .goto x, .goto x' | .label x, .label x' => x = x'
  | _, _ => false

/-- Whether two lists of statements are the same. -/
def sameStatements : List Statement → List Statement → Bool
  | [], [] => true
  | s :: ss, s' :: ss' => s.same s' && sameStatements ss ss'
  | _, _ => false

/-- Whether two blocks are the same. -/
def Block.same : Block → Block → Bool
  | .mk ss ls, .mk ss' ls' => sameStatements ss ss' && ls = ls'

end

/-- Trees that are the same are equal, of whatever kind they are. -/
theorem eq_of_same :
    (∀ e e' : Expr, e.same e' = true → e = e') ∧
    (∀ is is' : List TableItem, sameItems is is' = true → is = is') ∧
    (∀ i i' : TableItem, i.same i' = true → i = i') ∧
    (∀ b b' : FunctionBody, b.same b' = true → b = b') ∧
    (∀ b b' : Block, b.same b' = true → b = b') ∧
    (∀ ss ss' : List Statement, sameStatements ss ss' = true → ss = ss') ∧
    (∀ s s' : Statement, s.same s' = true → s = s') ∧
    (∀ ts ts' : List Target, sameTargets ts ts' = true → ts = ts') ∧
    (∀ t t' : Target, t.same t' = true → t = t') ∧
    (∀ es es' : List Expr, sameExprs es es' = true → es = es') := by
  -- The cases are those of the walk. Where it stops with `false` there is nothing to prove.
  apply Expr.same.mutual_induct
  all_goals
    intros
    simp_all [Expr.same, sameExprs, TableItem.same, sameItems, FunctionBody.same, Target.same,
      sameTargets, Statement.same, sameStatements, Block.same]

theorem FunctionBody.eq_of_same {b b' : FunctionBody} (hb : b.same b' = true) : b = b' :=
  Script.eq_of_same.2.2.2.1 b b' hb

end MacroStream.Script
