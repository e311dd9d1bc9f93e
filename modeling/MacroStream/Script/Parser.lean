import MacroStream.Script.Arithmetic
import MacroStream.Script.Lexer

/-!
# Reading a chunk

`Parser.parse` turns the tokens of a chunk into the tree of `Syntax`, with every name resolved. The
grammar is read by recursive descent; each function takes the current token and answers what it
read. The recursion is bounded by a number computed from the number of tokens.

Points that decide the lines in messages:

* an operator has the line of its token, a comparison that of the last token of its right side;
* a call has the line of its opening bracket;
* an access by key has the line of the token read last when its value is first needed, so it is made
  with line 0 and `settle` fills the line in.

Nesting is limited, and so are the numbers of local and of captured variables of a function. A
variable declared constant with a literal value is replaced by this value and does not exist at run
time.
-/

namespace MacroStream.Script

/-- Why a chunk cannot be read. -/
inductive ChunkFault where
  | malformed (fault : SyntaxFault)
  /-- The chunk nests too deeply. -/
  | tooDeep

namespace Parser

/-! ### Scopes -/

/-- What may be done with a local variable. -/
inductive VarKind where
  | regular
  | constant
  | close
  /-- A constant known while the chunk is read. -/
  | literal (value : Expr)

/-- A local variable in scope. -/
structure Var where
  name : Name
  kind : VarKind

/-- Whether a variable exists only while the chunk is read. -/
def Var.isLiteral (v : Var) : Bool :=
  match v.kind with
  | .literal _ => true
  | _ => false

/-- A jump whose label has not been seen. -/
structure Jump where
  name : Name
  line : Nat
  /-- How many variables are in scope. -/
  scope : Nat

/-- A block that is being read. -/
structure OpenBlock where
  isLoop : Bool
  /-- How many variables were in scope when it began. -/
  scope : Nat
  /-- Whether a variable in scope has to be closed. -/
  closes : Bool
  labels : List (Name × Nat × Nat) := []
  labelLines : List (Name × Nat) := []
  /-- How many statements were read. -/
  count : Nat := 0

/-- A function that is being read. -/
structure OpenFunction where
  /-- The variables in scope, newest first. -/
  vars : List Var := []
  captures : Array (Name × Capture × VarKind) := #[]
  isVararg : Bool := false
  lineDefined : Nat := 0
  /-- The blocks around the current position, innermost first. -/
  blocks : List OpenBlock := []
  /-- The jumps that wait for their labels, oldest first. -/
  jumps : List Jump := []
  /-- The most variables that were in scope at once. -/
  mostVars : Nat := 0

/-- The state of reading. -/
structure State where
  current : Lexeme
  /-- The tokens behind the current one. -/
  rest : List Lexeme
  /-- What is wrong behind the last token. -/
  fault : Option SyntaxFault
  /-- The line of the last token read. -/
  lastLine : Nat := 1
  /-- The functions around the current position, innermost first. -/
  functions : List OpenFunction := []
  depth : Nat := 0
  /-- The name of the chunk. -/
  source : ByteArray

/-- Actions of the parser. -/
abbrev Parse := StateT State (Except ChunkFault)

/-- Nothing nests deeper. -/
def depthLimit : Nat := 200

/-- Fails at the current token. -/
def failNear {α : Type} (message : String) : Parse α := do
  let l := (← get).current
  throw (.malformed (.near l.line message l.token l.text))

/-- Fails without naming a token. -/
def failPlain {α : Type} (message : ByteArray) : Parse α := do
  throw (.malformed ⟨(← get).current.line, message⟩)

/-- Goes on to the next token. -/
def next : Parse Unit := do
  let st ← get
  match st.rest with
  | l :: ls => set { st with current := l, rest := ls, lastLine := st.current.line }
  | [] =>
    match st.fault with
    | some f => throw (.malformed f)
    | none => set { st with lastLine := st.current.line }

/-- The current token. -/
def token : Parse Token := return (← get).current.token

/-- The line of the current token. -/
def line : Parse Nat := return (← get).current.line

/-- The line of the token before the current one. -/
def lastLine : Parse Nat := return (← get).lastLine

/-- Whether a token is a certain symbol. -/
def isSymbol (s : Symbol) : Token → Bool
  | .symbol s' => s = s'
  | _ => false

/-- Whether the current token is a certain symbol. -/
def at' (s : Symbol) : Parse Bool := return isSymbol s (← token)

/-- Reads a symbol if it is there. -/
def accept (s : Symbol) : Parse Bool := do
  if ← at' s then
    next
    return true
  else return false

/-- Reads what separates the parts of a table constructor if it is there. -/
def acceptSeparator : Parse Bool := do
  if ← accept (.char 44) then return true else accept (.char 59)

/-- Reads a symbol that has to be there. -/
def expect (s : Symbol) : Parse Unit := do
  unless ← accept s do failNear ("'" ++ s.spelling ++ "' expected")

/-- Reads the symbol that closes what `opening` on line `start` opened. -/
def expectClosing (s opening : Symbol) (start : Nat) : Parse Unit := do
  unless ← accept s do
    if start = (← line) then failNear ("'" ++ s.spelling ++ "' expected")
    else
      failNear ("'" ++ s.spelling ++ "' expected (to close '" ++ opening.spelling ++ "' at line " ++
        Nat.repr start ++ ")")

/-- Reads a name. -/
def expectName : Parse Name := do
  match ← token with
  | .name s =>
    next
    return s
  | _ => failNear "<name> expected"

/-- Counts one level of nesting while `act` runs. -/
def nested {α : Type} (act : Parse α) : Parse α := do
  let st ← get
  if st.depth + 1 ≥ depthLimit then throw .tooDeep
  set { st with depth := st.depth + 1 }
  let r ← act
  modify fun st ↦ { st with depth := st.depth - 1 }
  return r

/-- The innermost function. -/
def function : Parse OpenFunction := return ((← get).functions.head?).getD {}

/-- Changes the innermost function. -/
def modifyFunction (f : OpenFunction → OpenFunction) : Parse Unit :=
  modify fun st ↦ match st.functions with
    | fn :: outer => { st with functions := f fn :: outer }
    | [] => st

/-- Changes the innermost block. -/
def modifyBlock (f : OpenBlock → OpenBlock) : Parse Unit :=
  modifyFunction fun fn ↦ match fn.blocks with
    | b :: outer => { fn with blocks := f b :: outer }
    | [] => fn

/-- How messages name a function. -/
def OpenFunction.describe (fn : OpenFunction) : String :=
  if fn.lineDefined = 0 then "main function" else "function at line " ++ Nat.repr fn.lineDefined

/-- Fails because a function has too many of something. -/
def failLimit {α : Type} (what : String) (limit : Nat) (fn : OpenFunction) : Parse α :=
  failNear ("too many " ++ what ++ " (limit is " ++ Nat.repr limit ++ ") in " ++ fn.describe)

/-- The most local variables that a function has at once. -/
def varLimit : Nat := 200

/-- The most variables that a function captures. -/
def captureLimit : Nat := 255

/-- Checks that `n` more variables may be declared. -/
def checkVars (n : Nat) : Parse Unit := do
  let fn ← function
  if fn.vars.length + n > varLimit then failLimit "local variables" varLimit fn

/-- Brings variables into scope, the first one first. -/
def declare (vs : List Var) : Parse Unit :=
  modifyFunction fun fn ↦
    let vars := vs.reverse ++ fn.vars
    { fn with vars, mostVars := max fn.mostVars vars.length }

/-- What a name stands for. -/
inductive Resolved where
  | scope (index : Nat) (kind : VarKind)
  | captured (index : Nat) (kind : VarKind)
  | literal (value : Expr)

/-- The newest variable of a name; variables that do not exist at run time are not counted. -/
def findVar (name : Name) : Nat → List Var → Option Resolved
  | _, [] => none
  | n, v :: vs =>
    if v.name = name then
      match v.kind with
      | .literal e => some (.literal e)
      | k => some (.scope n k)
    else findVar name (if v.isLiteral then n else n + 1) vs

/-- The captured variable of a name. -/
def findCapture (name : Name) (cs : Array (Name × Capture × VarKind)) : Option Resolved :=
  match cs.findIdx? fun (n, _, _) ↦ n = name with
  | some i => (cs[i]?).map fun (_, _, k) ↦ .captured i k
  | none => none

/-- Resolves a name; the functions between it and its variable capture it. -/
def resolveIn (name : Name) : List OpenFunction → Option Resolved × List OpenFunction
  | [] => (none, [])
  | fn :: outer =>
    match findVar name 0 fn.vars with
    | some r => (some r, fn :: outer)
    | none =>
      match findCapture name fn.captures with
      | some r => (some r, fn :: outer)
      | none =>
        let capture (c : Capture) (k : VarKind) (outer : List OpenFunction) :=
          let fn := { fn with captures := fn.captures.push (name, c, k) }
          (some (.captured (fn.captures.size - 1) k), fn :: outer)
        match resolveIn name outer with
        | (some (.scope i k), outer) => capture (.scope i) k outer
        | (some (.captured i k), outer) => capture (.captured i) k outer
        | (r, outer) => (r, fn :: outer)

/-- Resolves a name in the current scope. -/
def resolve (name : Name) : Parse (Option Resolved) := do
  let st ← get
  let (r, functions) := resolveIn name st.functions
  set { st with functions }
  match functions.find? fun fn ↦ captureLimit < fn.captures.size with
  | some fn => failLimit "upvalues" captureLimit fn
  | none => return r

/-- The name of the table that holds the global variables. -/
def envName : Name := "_ENV".toUTF8

/-- An expression that was just read. A name of a constant known while reading has to be told from
the constant, because it may stand where an assignment refuses it by name. -/
structure Operand where
  expr : Expr
  literalName : Option Name := none

/-- The variable with a resolved name. -/
def Resolved.toOperand (name : Name) : Resolved → Operand
  | .scope i _ => ⟨.scope name i, none⟩
  | .captured i _ => ⟨.captured name i, none⟩
  | .literal e => ⟨e, some name⟩

/-- The variable that a name stands for. -/
def nameOperand (name : Name) : Parse Operand := do
  match ← resolve name with
  | some r => return r.toOperand name
  | none =>
    match ← resolve envName with
    | some r => return ⟨.index (r.toOperand envName).expr (.str name) 0, none⟩
    | none => return ⟨.nil, none⟩

/-- Gives an access that has no line yet its line. -/
def settleAt (line : Nat) : Expr → Expr
  | .index o k 0 => .index o k line
  | e => e

/-- Gives an access that has no line yet the line of the last token. -/
def settle (e : Expr) : Parse Expr := return settleAt (← lastLine) e

/-! ### Blocks and labels -/

/-- Opens a block. -/
def enterBlock (isLoop : Bool) : Parse Unit :=
  modifyFunction fun fn ↦
    let closes := (fn.blocks.head?.map OpenBlock.closes).getD false
    { fn with blocks := ⟨isLoop, fn.vars.length, closes, [], [], 0⟩ :: fn.blocks }

/-- Fails because a jump has no label. -/
def failJump {α : Type} (j : Jump) : Parse α :=
  if j.name = "break".toUTF8 then
    failPlain ("break outside loop at line " ++ Nat.repr j.line).toUTF8
  else
    failPlain ("no visible label '".toUTF8 ++ j.name ++
      ("' for <goto> at line " ++ Nat.repr j.line).toUTF8)

/-- Closes the innermost block and answers its labels. -/
def leaveBlock : Parse (List (Name × Nat × Nat)) := do
  let fn ← function
  match fn.blocks with
  | [] => return []
  | b :: outer =>
    let vars := fn.vars.drop (fn.vars.length - b.scope)
    let jumps := fn.jumps.filter fun j ↦ !(b.isLoop && j.name = "break".toUTF8)
    let jumps := jumps.map fun j ↦ { j with scope := min j.scope b.scope }
    modifyFunction fun fn ↦ { fn with vars, blocks := outer, jumps }
    if outer.isEmpty then
      match jumps with
      | j :: _ => failJump j
      | [] => return b.labels
    else return b.labels

/-- The variables among `vars` that exist at run time. -/
def liveVars (vars : List Var) : Nat := (vars.filter fun v ↦ !v.isLiteral).length

/-- The line of a visible label. -/
def labelLine? (name : Name) (fn : OpenFunction) : Option Nat :=
  fn.blocks.findSome? fun b ↦ (b.labelLines.find? fun (n, _) ↦ n = name).map Prod.snd

/-- Places a label; one at the end of its block counts as if no variable of the block were in
scope. -/
def placeLabel (name : Name) (labelLine : Nat) (isLast : Bool) : Parse Unit := do
  let fn ← function
  match fn.blocks with
  | [] => return
  | b :: _ =>
    let scope := if isLast then b.scope else fn.vars.length
    let own := fn.vars.take (fn.vars.length - b.scope)
    let depth := if isLast then 0 else liveVars own
    match fn.jumps.find? fun j ↦ j.name = name && j.scope < scope with
    | some j =>
      let var := (fn.vars.reverse[j.scope]?.map Var.name).getD .empty
      failPlain ("<goto ".toUTF8 ++ name ++ ("> at line " ++ Nat.repr j.line ++
        " jumps into the scope of local '").toUTF8 ++ var ++ "'".toUTF8)
    | none => do
      modifyFunction fun fn ↦ { fn with jumps := fn.jumps.filter fun j ↦ j.name ≠ name }
      modifyBlock fun b ↦
        { b with
          labels := (name, depth, b.count) :: b.labels
          labelLines := (name, labelLine) :: b.labelLines }

/-- A jump to a label that has not been seen. -/
def addJump (name : Name) (start : Nat) : Parse Unit :=
  modifyFunction fun fn ↦ { fn with jumps := fn.jumps ++ [⟨name, start, fn.vars.length⟩] }

/-- Whether the current token ends a block. -/
def blockEnds (withUntil : Bool) : Parse Bool := do
  match ← token with
  | .eof => return true
  | .symbol .kElse | .symbol .kElseif | .symbol .kEnd => return true
  | .symbol .kUntil => return withUntil
  | _ => return false

/-! ### Operators -/

/-- The number that an expression is, if it is a constant. -/
def numeral? : Expr → Option Num
  | .int n => some (.int n)
  | .float x => some (.float x)
  | .paren e => numeral? e
  | _ => none

/-- A constant; a zero and a NaN are left to be computed when the chunk runs. -/
def constant? : Num → Option Expr
  | .int n => some (.int n)
  | .float x => if x.isNaN || x == 0.0 then none else some (.float x)

/-- Computes an operator on constants. -/
def foldBinary (op : BinaryOp) (left right : Expr) (line : Nat) : Expr :=
  let folded? : Option Expr := do
    let a ← numeral? left
    let b ← numeral? right
    if (op = .div || op = .idiv || op = .mod) && b.toFloat == 0.0 then none
    match Arith.apply op a b with
    | .number n => constant? n
    | _ => none
  folded?.getD (.binary op left right line)

/-- Computes an operator on a constant. -/
def foldUnary (op : UnaryOp) (operand : Expr) (line : Nat) : Expr :=
  let folded? : Option Expr := do
    let a ← numeral? operand
    match op with
    | .neg => constant? (Arith.negate a)
    | .bnot => (a.toInt?).map fun n ↦ .int (~~~n)
    | _ => none
  match op, operand with
  | .not, .nil | .not, .false => .true
  | .not, .true => .false
  | _, _ => folded?.getD (.unary op operand line)

/-- Operators between two operands. -/
inductive Infix where
  | binary (op : BinaryOp)
  | concat
  | and
  | or

/-- The operator that a token is, with how strongly it binds to its left and to its right. -/
def infix? : Token → Option (Infix × Nat × Nat)
  | .symbol s =>
    match s with
    | .char 43 => some (.binary .add, 10, 10)
    | .char 45 => some (.binary .sub, 10, 10)
    | .char 42 => some (.binary .mul, 11, 11)
    | .char 37 => some (.binary .mod, 11, 11)
    | .char 94 => some (.binary .pow, 14, 13)
    | .char 47 => some (.binary .div, 11, 11)
    | .idiv => some (.binary .idiv, 11, 11)
    | .char 38 => some (.binary .band, 6, 6)
    | .char 124 => some (.binary .bor, 4, 4)
    | .char 126 => some (.binary .bxor, 5, 5)
    | .shl => some (.binary .shl, 7, 7)
    | .shr => some (.binary .shr, 7, 7)
    | .concat => some (.concat, 9, 8)
    | .eq => some (.binary .eq, 3, 3)
    | .ne => some (.binary .ne, 3, 3)
    | .char 60 => some (.binary .lt, 3, 3)
    | .le => some (.binary .le, 3, 3)
    | .char 62 => some (.binary .gt, 3, 3)
    | .ge => some (.binary .ge, 3, 3)
    | .kAnd => some (.and, 2, 2)
    | .kOr => some (.or, 1, 1)
    | _ => none
  | _ => none

/-- The operator on one operand that a token is. -/
def unary? : Token → Option UnaryOp
  | .symbol .kNot => some .not
  | .symbol (.char 45) => some .neg
  | .symbol (.char 126) => some .bnot
  | .symbol (.char 35) => some .length
  | _ => none

/-- How strongly operators on one operand bind. -/
def unaryPriority : Nat := 12

/-- The operands of a chain of concatenations and its line. -/
def concatChain? : Expr → Option (List Expr × Nat)
  | .concat es l => some (es, l)
  | .paren e => concatChain? e
  | _ => none

/-- An operator with its operands; `opLine` is its own line, `last` that of the last token. -/
def combine (op : Infix) (left right : Expr) (opLine last : Nat) : Expr :=
  match op with
  | .binary op =>
    if op.isComparison then .binary op left right last else foldBinary op left right opLine
  | .concat =>
    match concatChain? right with
    | some (es, l) => .concat (left :: es) l
    | none => .concat [left, right] opLine
  | .and => .and left right
  | .or => .or left right

/-! ### Assignments -/

/-- Whether a variable may be assigned to; answers its name if not. -/
def readOnly? (o : Operand) : Parse (Option Name) := do
  let fn ← function
  match o.literalName with
  | some n => return some n
  | none =>
    match o.expr with
    | .scope name i =>
      match (fn.vars.filter fun v ↦ !v.isLiteral)[i]? with
      | some ⟨_, .regular⟩ => return none
      | _ => return some name
    | .captured name i =>
      match fn.captures[i]? with
      | some (_, _, .regular) => return none
      | _ => return some name
    | _ => return none

/-- Refuses to assign to a constant. -/
def checkAssignable (o : Operand) : Parse Unit := do
  match ← readOnly? o with
  | some n => failPlain ("attempt to assign to const variable '".toUTF8 ++ n ++ "'".toUTF8)
  | none => return

/-- What an expression on the left of an assignment assigns to. -/
def target? (line : Nat) : Expr → Option Target
  | .scope _ i => some (.scope i)
  | .captured _ i => some (.captured i)
  | .index o k _ => some (.index o k line)
  | _ => none

/-- Whether an expression can stand on the left of an assignment. -/
def isAssignable (o : Operand) : Bool := o.literalName.isSome || (target? 0 o.expr).isSome

/-- What a declaration says about a variable, in angle brackets. -/
def readAttribute : Parse Attribute := do
  if ← accept (.char 60) then
    let name ← expectName
    expect (.char 62)
    if name = "const".toUTF8 then return .constant
    else if name = "close".toUTF8 then return .close
    else failPlain ("unknown attribute '".toUTF8 ++ name ++ "'".toUTF8)
  else return .regular

/-- The kind of a variable with an attribute. -/
def kindOf : Attribute → VarKind
  | .regular => .regular
  | .constant => .constant
  | .close => .close

/-- The value of a constant known while reading. -/
def literal? : Expr → Option Expr
  | .nil => some .nil
  | .true => some .true
  | .false => some .false
  | .str s => some (.str s)
  | .int n => some (.int n)
  | .float x => some (.float x)
  | .paren e => literal? e
  | _ => none

/-- Further names of a declaration, with what it says about them. -/
def readNames : Nat → List (Name × Attribute) → Parse (List (Name × Attribute))
  | 0, acc => return acc.reverse
  | n + 1, acc => do
    checkVars (acc.length + 1)
    let name ← expectName
    let attr ← readAttribute
    if attr = .close && acc.any fun (_, a) ↦ a = .close then
      failPlain "multiple to-be-closed variables in local list".toUTF8
    let acc := (name, attr) :: acc
    if ← accept (.char 44) then readNames n acc else return acc.reverse

/-- The parameters of a function up to the closing bracket, and whether more may follow them. -/
def readParams : Nat → List Name → Parse (List Name × Bool)
  | 0, acc => return (acc.reverse, false)
  | n + 1, acc => do
    match ← token with
    | .name s =>
      checkVars (acc.length + 1)
      next
      if ← accept (.char 44) then readParams n (s :: acc) else return ((s :: acc).reverse, false)
    | .symbol .dots =>
      next
      return (acc.reverse, true)
    | _ => failNear "<name> or '...' expected"

/-- Further names separated by commas. -/
def moreNames : Nat → List Name → Parse (List Name)
  | 0, acc => return acc.reverse
  | n + 1, acc => do
    if ← accept (.char 44) then
      let name ← expectName
      checkVars (acc.length + 1)
      moreNames n (name :: acc)
    else return acc.reverse

/-- The name of the variables that a loop keeps for itself. -/
def loopState : Name := "(for state)".toUTF8

/-- Variables that a loop keeps for itself. -/
def loopVars (n : Nat) : List Var := List.replicate n ⟨loopState, .regular⟩

/-! ### The grammar -/

mutual

/-- A list of expressions; all but the last are settled. -/
def readExprs : Nat → Parse (List Expr)
  | 0 => throw .tooDeep
  | n + 1 => do
    let e ← readExpr n
    if ← accept (.char 44) then
      let e ← settle e
      return e :: (← readExprs n)
    else return [e]

/-- An expression. -/
def readExpr : Nat → Parse Expr
  | 0 => throw .tooDeep
  | n + 1 => readOperators n 0

/-- An expression of operators that bind more strongly than `limit`. -/
def readOperators : Nat → Nat → Parse Expr
  | 0, _ => throw .tooDeep
  | n + 1, limit => nested do
    match unary? (← token) with
    | some op =>
      let opLine ← line
      next
      let e ← settle (← readOperators n unaryPriority)
      readInfix n limit (foldUnary op e opLine)
    | none =>
      let e ← readSimple n
      readInfix n limit e

/-- The operators behind a left operand. -/
def readInfix : Nat → Nat → Expr → Parse Expr
  | 0, _, _ => throw .tooDeep
  | n + 1, limit, left => do
    match infix? (← token) with
    | some (op, leftPriority, rightPriority) =>
      if leftPriority ≤ limit then return left
      else
        let opLine ← line
        next
        let left ← settle left
        let right ← settle (← readOperators n rightPriority)
        readInfix n limit (combine op left right opLine (← lastLine))
    | none => return left

/-- An expression without operators. -/
def readSimple : Nat → Parse Expr
  | 0 => throw .tooDeep
  | n + 1 => do
    match ← token with
    | .int v => next; return .int v
    | .float v => next; return .float v
    | .str s => next; return .str s
    | .symbol .kNil => next; return .nil
    | .symbol .kTrue => next; return .true
    | .symbol .kFalse => next; return .false
    | .symbol .dots =>
      unless (← function).isVararg do failNear "cannot use '...' outside a vararg function"
      next
      return .vararg
    | .symbol (.char 123) => readTable n
    | .symbol .kFunction =>
      let start ← line
      next
      return .function (← readBody n false start)
    | _ => return (← readSuffixed n).expr

/-- A name or an expression in brackets. -/
def readPrimary : Nat → Parse Operand
  | 0 => throw .tooDeep
  | n + 1 => do
    match ← token with
    | .name s =>
      next
      nameOperand s
    | .symbol (.char 40) =>
      let start ← line
      next
      let e ← readExpr n
      expectClosing (.char 41) (.char 40) start
      return ⟨.paren (← settle e), none⟩
    | _ => failNear "unexpected symbol"

/-- A name or an expression in brackets with accesses and calls behind it. -/
def readSuffixed : Nat → Parse Operand
  | 0 => throw .tooDeep
  | n + 1 => do readSuffixes n (← readPrimary n)

/-- The accesses and calls behind `o`. -/
def readSuffixes : Nat → Operand → Parse Operand
  | 0, _ => throw .tooDeep
  | n + 1, o => do
    match ← token with
    | .symbol (.char 46) =>
      let e ← settle o.expr
      next
      let name ← expectName
      readSuffixes n ⟨.index e (.str name) 0, none⟩
    | .symbol (.char 91) =>
      let e ← settle o.expr
      next
      let key ← settle (← readExpr n)
      expect (.char 93)
      readSuffixes n ⟨.index e key 0, none⟩
    | .symbol (.char 58) =>
      next
      let name ← expectName
      let nameLine ← lastLine
      let e ← settle o.expr
      let (args, callLine) ← readArgs n
      readSuffixes n ⟨.method e name args nameLine callLine, none⟩
    | .symbol (.char 40) | .symbol (.char 123) | .str _ =>
      let e ← settle o.expr
      let (args, callLine) ← readArgs n
      readSuffixes n ⟨.call e args callLine, none⟩
    | _ => return o

/-- The arguments of a call and its line. -/
def readArgs : Nat → Parse (List Expr × Nat)
  | 0 => throw .tooDeep
  | n + 1 => do
    let callLine ← line
    match ← token with
    | .str s =>
      next
      return ([.str s], callLine)
    | .symbol (.char 123) => return ([← readTable n], callLine)
    | .symbol (.char 40) =>
      next
      if ← accept (.char 41) then return ([], callLine)
      else
        let args ← readExprs n
        expectClosing (.char 41) (.char 40) callLine
        -- The last argument is needed only behind the bracket.
        let last ← lastLine
        return (args.map (settleAt last), callLine)
    | _ => failNear "function arguments expected"

/-- A table constructor. -/
def readTable : Nat → Parse Expr
  | 0 => throw .tooDeep
  | n + 1 => do
    let start ← line
    expect (.char 123)
    let items ← readItems n []
    expectClosing (.char 125) (.char 123) start
    let last ← lastLine
    let settleItem : TableItem → TableItem
      | .item e => .item (settleAt last e)
      | i => i
    return .table (items.map settleItem) start

/-- The parts of a table constructor up to its end, with those read so far in reverse. -/
def readItems : Nat → List TableItem → Parse (List TableItem)
  | 0, _ => throw .tooDeep
  | n + 1, acc => do
    if ← at' (.char 125) then return acc.reverse
    let item ← readItem n
    if ← acceptSeparator then
      let last ← lastLine
      let item : TableItem := match item with
        | .item e => .item (settleAt last e)
        | i => i
      readItems n (item :: acc)
    else return (item :: acc).reverse

/-- A part of a table constructor. -/
def readItem : Nat → Parse TableItem
  | 0 => throw .tooDeep
  | n + 1 => do
    match ← token with
    | .name s =>
      let st ← get
      match st.rest, st.fault with
      | [], some f => throw (.malformed f)
      | l :: _, _ =>
        if isSymbol (.char 61) l.token then
          next
          next
          let e ← settle (← readExpr n)
          return .field (.str s) e (← lastLine)
        else return .item (← readExpr n)
      | [], none => return .item (← readExpr n)
    | .symbol (.char 91) =>
      next
      let key ← settle (← readExpr n)
      expect (.char 93)
      expect (.char 61)
      let e ← settle (← readExpr n)
      return .field key e (← lastLine)
    | _ => return .item (← readExpr n)

/-- The parameters and statements of a function that starts on line `start`. -/
def readBody : Nat → Bool → Nat → Parse FunctionBody
  | 0, _, _ => throw .tooDeep
  | n + 1, isMethod, start => do
    modify fun st ↦ { st with functions := { lineDefined := start } :: st.functions }
    enterBlock false
    expect (.char 40)
    let self : List Name := if isMethod then ["self".toUTF8] else []
    let (params, isVararg) ←
      if ← at' (.char 41) then pure (self, false)
      else
        let (ps, v) ← readParams n self.reverse
        pure (ps, v)
    declare (params.map fun p ↦ ⟨p, .regular⟩)
    modifyFunction fun fn ↦ { fn with isVararg }
    expect (.char 41)
    let statements ← readStatements n
    let last ← line
    expectClosing .kEnd .kFunction start
    let labels ← leaveBlock
    let fn ← function
    modify fun st ↦ { st with functions := st.functions.drop 1 }
    let captures := fn.captures.toList.map fun (name, c, _) ↦ (name, c)
    return .mk ⟨params, isVararg, captures, (← get).source, start, last, fn.mostVars + 3⟩
      (.mk statements labels)

/-- Statements up to the end of a block. -/
def readStatements : Nat → Parse (List Statement)
  | 0 => throw .tooDeep
  | n + 1 => do
    if ← blockEnds true then return []
    else
      let isReturn ← at' .kReturn
      let s? ← nested (readStatement n)
      match s? with
      | some s =>
        modifyBlock fun b ↦ { b with count := b.count + 1 }
        if isReturn then return [s] else return s :: (← readStatements n)
      | none => readStatements n

/-- The statements of a block that variables `vars` are in scope of. -/
def readBlock : Nat → Bool → List Var → Parse Block
  | 0, _, _ => throw .tooDeep
  | n + 1, isLoop, vars => do
    enterBlock isLoop
    declare vars
    let statements ← readStatements n
    let labels ← leaveBlock
    return .mk statements labels

/-- A statement, or nothing for one that only matters while reading. -/
def readStatement : Nat → Parse (Option Statement)
  | 0 => throw .tooDeep
  | n + 1 => do
    let start ← line
    match ← token with
    | .symbol (.char 59) =>
      next
      return none
    | .symbol .kIf => return some (← readIf n start)
    | .symbol .kWhile =>
      next
      let condition ← settle (← readExpr n)
      expect .kDo
      let body ← readBlock n true []
      expectClosing .kEnd .kWhile start
      return some (.while condition body)
    | .symbol .kDo =>
      next
      let body ← readBlock n false []
      expectClosing .kEnd .kDo start
      return some (.scopeBlock body)
    | .symbol .kFor => return some (← readFor n start)
    | .symbol .kRepeat =>
      next
      -- The condition sees the variables of the body.
      enterBlock true
      enterBlock false
      let statements ← readStatements n
      expectClosing .kUntil .kRepeat start
      let condition ← settle (← readExpr n)
      let labels ← leaveBlock
      let _ ← leaveBlock
      return some (.repeat (.mk (statements ++ [.until condition]) labels))
    | .symbol .kFunction =>
      next
      return some (← readFunction n start)
    | .symbol .kLocal =>
      next
      if ← accept .kFunction then
        let name ← expectName
        checkVars 1
        declare [⟨name, .regular⟩]
        return some (.declareFunction name (← readBody n false (← line)))
      else readLocal n
    | .symbol .doubleColon =>
      next
      let name ← expectName
      expect .doubleColon
      skipEmpty n
      match labelLine? name (← function) with
      | some l =>
        failPlain ("label '".toUTF8 ++ name ++ ("' already defined on line " ++ Nat.repr l).toUTF8)
      | none => placeLabel name start (← blockEnds false)
      return none
    | .symbol .kReturn =>
      next
      return some (← readReturn n)
    | .symbol .kBreak =>
      next
      addJump "break".toUTF8 start
      return some .break
    | .symbol .kGoto =>
      next
      let name ← expectName
      if (labelLine? name (← function)).isNone then addJump name start
      return some (.goto name)
    | _ => return some (← readExprStatement n)

/-- Labels and empty statements behind a label. -/
def skipEmpty : Nat → Parse Unit
  | 0 => throw .tooDeep
  | n + 1 => do
    if (← at' (.char 59)) || (← at' .doubleColon) then
      let _ ← nested (readStatement n)
      skipEmpty n

/-- A condition with its blocks, behind which `elseif` and `else` may follow. -/
def readIf : Nat → Nat → Parse Statement
  | 0, _ => throw .tooDeep
  | n + 1, start => do
    next
    let condition ← readExpr n
    expect .kThen
    let condition ← settle condition
    let yes ← readBlock n false []
    if ← at' .kElseif then
      let rest ← readIf n start
      return .if condition yes (.mk [rest] [])
    else if ← accept .kElse then
      let no ← readBlock n false []
      expectClosing .kEnd .kIf start
      return .if condition yes no
    else
      expectClosing .kEnd .kIf start
      return .if condition yes (.mk [] [])

/-- A loop over a range or over what an iterator gives. -/
def readFor : Nat → Nat → Parse Statement
  | 0, _ => throw .tooDeep
  | n + 1, start => do
    enterBlock true
    next
    let name ← expectName
    match ← token with
    | .symbol (.char 61) =>
      checkVars 4
      next
      let first ← readExpr n
      expect (.char 44)
      let first ← settle first
      let limit ← settle (← readExpr n)
      let step ← if ← accept (.char 44) then do pure (some (← settle (← readExpr n))) else pure none
      declare (loopVars 3)
      expect .kDo
      let doLine ← lastLine
      let body ← readBlock n false [⟨name, .regular⟩]
      expectClosing .kEnd .kFor start
      let _ ← leaveBlock
      return .forRange name first limit step body doLine
    | .symbol (.char 44) | .symbol .kIn =>
      checkVars 5
      let names ← moreNames n [name]
      expect .kIn
      let values ← readExprs n
      let last ← lastLine
      let values := values.map (settleAt last)
      declare (loopVars 4)
      modifyBlock fun b ↦ { b with closes := true }
      expect .kDo
      let body ← readBlock n false (names.map fun x ↦ ⟨x, .regular⟩)
      expectClosing .kEnd .kFor start
      let _ ← leaveBlock
      return .forEach names values body start
    | _ => failNear "'=' or 'in' expected"

/-- The function that a statement defines, behind the word `function`. -/
def readFunction : Nat → Nat → Parse Statement
  | 0, _ => throw .tooDeep
  | n + 1, start => do
    let name ← expectName
    let (o, isMethod) ← readFunctionName n (← nameOperand name)
    let body ← readBody n isMethod start
    checkAssignable o
    match target? start o.expr with
    | some t => return .assign [t] [.function body] start
    | none => failNear "syntax error"

/-- The fields in the name of a function, and whether the last one is a method. -/
def readFunctionName : Nat → Operand → Parse (Operand × Bool)
  | 0, _ => throw .tooDeep
  | n + 1, o => do
    if ← at' (.char 46) then
      let e ← settle o.expr
      next
      let name ← expectName
      readFunctionName n ⟨.index e (.str name) 0, none⟩
    else if ← at' (.char 58) then
      let e ← settle o.expr
      next
      let name ← expectName
      return (⟨.index e (.str name) 0, none⟩, true)
    else return (o, false)

/-- A declaration of local variables. -/
def readLocal : Nat → Parse (Option Statement)
  | 0 => throw .tooDeep
  | n + 1 => do
    let names ← readNames n []
    let values ← if ← accept (.char 61) then readExprs n else pure []
    let last ← lastLine
    let values := values.map (settleAt last)
    let vars := names.map fun (x, a) ↦ (⟨x, kindOf a⟩ : Var)
    if names.any fun (_, a) ↦ a = .close then modifyBlock fun b ↦ { b with closes := true }
    match names.getLast?, values.getLast?.bind literal? with
    | some (x, .constant), some e =>
      if names.length = values.length then
        declare (vars.dropLast ++ [⟨x, .literal e⟩])
        if names.length = 1 then return none
        else return some (.declare names.dropLast values.dropLast last)
      else
        declare vars
        return some (.declare names values last)
    | _, _ =>
      declare vars
      return some (.declare names values last)

/-- What a function returns. -/
def readReturn : Nat → Parse Statement
  | 0 => throw .tooDeep
  | n + 1 => do
    let values ←
      if (← blockEnds true) || (← at' (.char 59)) then pure []
      else
        let es ← readExprs n
        let last ← lastLine
        pure (es.map (settleAt last))
    let _ ← accept (.char 59)
    let closes := ((← function).blocks.head?.map OpenBlock.closes).getD false
    match values with
    | [.call f args l] => return if closes then .return values else .tailCall (.call f args l)
    | [.method o x args a l] =>
      return if closes then .return values else .tailCall (.method o x args a l)
    | _ => return .return values

/-- A call or an assignment. -/
def readExprStatement : Nat → Parse Statement
  | 0 => throw .tooDeep
  | n + 1 => do
    let o ← readSuffixed n
    if (← at' (.char 61)) || (← at' (.char 44)) then readAssignment n [o]
    else
      match o.expr with
      | .call .. | .method .. => return .run o.expr
      | _ => failNear "syntax error"

/-- The rest of an assignment to `os`, the last of which was read last. -/
def readAssignment : Nat → List Operand → Parse Statement
  | 0, _ => throw .tooDeep
  | n + 1, os => do
    match os with
    | [] => failNear "syntax error"
    | o :: _ =>
      unless isAssignable o do failNear "syntax error"
      checkAssignable o
      if ← accept (.char 44) then
        let o' ← readSuffixed n
        nested (readAssignment n (o' :: os))
      else
        expect (.char 61)
        let values ← readExprs n
        let last ← lastLine
        let values := values.map (settleAt last)
        return .assign (os.reverse.filterMap fun o ↦ target? last o.expr) values last

end

/-- The tree of a chunk whose tokens are `lexemes`; it starts inside `depth` levels of nesting. -/
def parseLexemes (source : ByteArray) (depth : Nat) (lexemes : List Lexeme)
    (fault : Option SyntaxFault) : Except ChunkFault FunctionBody :=
  match lexemes, fault with
  | [], some f => .error (.malformed f)
  | [], none => .error .tooDeep
  | l :: ls, _ =>
    let fuel := 16 * lexemes.length + 64
    let start : State :=
      { current := l, rest := ls, fault, depth, source,
        functions := [{ isVararg := true, captures := #[(envName, .scope 0, .regular)] }] }
    let read : Parse FunctionBody := do
      enterBlock false
      let statements ← readStatements fuel
      match ← token with
      | .eof => pure ()
      | _ => failNear "<eof> expected"
      let labels ← leaveBlock
      let fn ← function
      return .mk ⟨[], true, [(envName, .scope 0)], source, 0, 0, fn.mostVars + 3⟩
        (.mk statements labels)
    (read.run start).map Prod.fst

/-- The tree of a chunk. -/
def parse (source : ByteArray) (depth : Nat) (text : ByteArray) : Except ChunkFault FunctionBody :=
  let (lexemes, fault) := Lexer.lex text
  parseLexemes source depth lexemes fault

end Parser

end MacroStream.Script
