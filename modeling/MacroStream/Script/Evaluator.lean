import MacroStream.Script.Operations

/-!
# Meaning of expressions and statements

An expression is a computation of the list of its values; most have exactly one. A statement is a
computation of an `Effect`, which says what happens to the statements behind it. Loops, blocks and
returns are effects: nothing here is repeated, so every definition follows the structure of the
tree.

Operands are evaluated from left to right, with one exception: a local variable on the left of an
operator, or in front of an access, is read when the operator is applied, so it shows what the right
side did to it.
-/

namespace MacroStream.Script

/-- What surrounds an expression when it is evaluated. -/
structure Context where
  /-- The variables in scope with their addresses, the newest first. -/
  scope : List (Name × Nat)
  /-- The addresses of the captured variables. -/
  captured : Array Nat
  varargs : List Value
  /-- The name of the chunk. -/
  source : ByteArray

namespace Context

/-- The address of a variable in scope. -/
def address (c : Context) (i : Nat) : Nat :=
  match c.scope[i]? with
  | some (_, a) => a
  | none => 0

/-- A place in the chunk. -/
def place (c : Context) (line : Nat) : Option Place := some ⟨c.source, line⟩

/-- The address of a variable that a function captures. -/
def captureAddress (c : Context) : Capture → Nat
  | .scope i => c.address i
  | .captured i => c.captured.getD i 0

/-- The address of a variable that an expression is, if it is read as late as possible. -/
def lateAddress? (c : Context) : Expr → Option Nat
  | .scope _ i => some (c.address i)
  | .paren (.scope _ i) => some (c.address i)
  | _ => none

end Context

namespace Expr

/-- An expression without parentheses around it. -/
def unwrapped : Expr → Expr
  | .paren e => unwrapped e
  | e => e

/-- How messages name the key of an access. -/
def keyName (k : Expr) : ByteArray :=
  match k.unwrapped with
  | .str s => s
  | .int n => if 0 ≤ n && n ≤ 255 then "integer index".toUTF8 else "?".toUTF8
  | _ => "?".toUTF8

/-- Whether an expression is the variable that holds the table of global variables. -/
def isEnvironment : Expr → Bool
  | .scope name _ | .captured name _ => name == "_ENV".toUTF8
  | _ => Bool.false

/-- The name of what an expression stands for. -/
def nameInUse (e : Expr) : Option NameInUse :=
  match e.unwrapped with
  | .scope name _ => some ("local", name)
  | .captured name _ => some ("upvalue", name)
  | .str s => some ("constant", s)
  | .index o k _ => some (if o.isEnvironment then "global" else "field", k.keyName)
  | .method _ name _ _ _ => some ("method", name)
  | _ => none

end Expr

namespace Action

/-- The first value of a computation of many. -/
@[inline] def first (x : Action (List Value)) : Action Value := do return (← x).headD .nil

/-- Makes a function whose captured variables are found in a context. -/
def makeFunction (c : Context) (body : FunctionBody) : Action Value :=
  modifyGet (·.newFunction
    (.script body (body.info.captures.map fun (_, k) ↦ c.captureAddress k).toArray))

/-- Operators on one value. -/
def unary (place : Option Place) (op : UnaryOp) (v : Value) (name : Option NameInUse) :
    Action Value :=
  match op with
  | .neg => negate place v name
  | .bnot => complement place v name
  | .length => length place v name
  | .not => return .bool (!v.isTruthy)

/-- Operators on two values. -/
def binary (place : Option Place) (op : BinaryOp) (a b : Value) (nameA nameB : Option NameInUse) :
    Action Value := do
  if op.isComparison then return .bool (← compare place op a b)
  else arith place op a b nameA nameB

/-- What a table constructor has read so far. -/
structure Building where
  address : Nat
  /-- The items without keys, the last one first. -/
  pending : List Value

/-- Puts the items without keys into their places. -/
def Building.finish (b : Building) (last : List Value) : Action Value := do
  let items := b.pending.reverse ++ last
  reserve (16 * items.length)
  update (·.modifyTable b.address fun t ↦
    let t := t.growArray items.length
    (items.foldl (fun (tn : Table × Int64) v ↦ (tn.1.setInt tn.2 v, tn.2 + 1)) (t, 1)).1)
  return .table b.address

/-- How many items of a table constructor have no key, not counting one that may have many values
and stands last; and how many have one. -/
def countItems : List TableItem → Nat × Nat
  | [] => (0, 0)
  | [.item e] => if e.isMulti then (0, 0) else (1, 0)
  | .item _ :: rest => let (n, m) := countItems rest; (n + 1, m)
  | .field .. :: rest => let (n, m) := countItems rest; (n, m + 1)

mutual

/-- The values of an expression. -/
def eval (c : Context) : Expr → Action (List Value)
  | .nil => return [.nil]
  | .true => return [.bool Bool.true]
  | .false => return [.bool Bool.false]
  | .int n => return [.int n]
  | .float x => return [.float x]
  | .str s => return [.str s]
  | .vararg => return c.varargs
  | .scope _ i => return [← read (·.cell (c.address i))]
  | .captured _ i => return [← read (·.cell (c.captured.getD i 0))]
  | .index o k line => do
    match c.lateAddress? o with
    | some a =>
      let key ← first (eval c k)
      let object ← read (·.cell a)
      return [← index (c.place line) o.nameInUse object key]
    | none =>
      let object ← first (eval c o)
      let key ← first (eval c k)
      return [← index (c.place line) o.nameInUse object key]
  | .call f args line => do
    let function ← first (eval c f)
    let values ← evalList c args
    call function values ⟨line, f.nameInUse⟩
  | .method o name args nameLine line => do
    let object ← first (eval c o)
    let function ← index (c.place nameLine) o.nameInUse object (.str name)
    let values ← evalList c args
    call function (object :: values) ⟨line, some ("method", name)⟩
  | .function body => return [← makeFunction c body]
  | .binary op left right line => do
    match c.lateAddress? left with
    | some a =>
      let right' ← first (eval c right)
      let left' ← read (·.cell a)
      return [← binary (c.place line) op left' right' left.nameInUse right.nameInUse]
    | none =>
      let left' ← first (eval c left)
      let right' ← first (eval c right)
      return [← binary (c.place line) op left' right' left.nameInUse right.nameInUse]
  | .concat operands line => do
    let values ← evalEach c operands
    return [← concatAll (c.place line) (values.zip (operands.map Expr.nameInUse))]
  | .unary op operand line => do
    let v ← first (eval c operand)
    return [← unary (c.place line) op v operand.nameInUse]
  | .and left right => do
    let v ← first (eval c left)
    if v.isTruthy then return [← first (eval c right)] else return [v]
  | .or left right => do
    let v ← first (eval c left)
    if v.isTruthy then return [v] else return [← first (eval c right)]
  | .paren inner => return [← first (eval c inner)]
  | .table items _ => do
    let (n, m) := countItems items
    reserve (16 * n + 40 * m)
    let address ← modifyGet (·.newTable (.withRoom n m))
    return [← evalItems c ⟨address, []⟩ items]

/-- The values of a list of expressions; the last one may give any number of them. -/
def evalList (c : Context) : List Expr → Action (List Value)
  | [] => return []
  | [e] => eval c e
  | e :: es => do
    let v ← first (eval c e)
    return v :: (← evalList c es)

/-- The first values of expressions. -/
def evalEach (c : Context) : List Expr → Action (List Value)
  | [] => return []
  | e :: es => do
    let v ← first (eval c e)
    return v :: (← evalEach c es)

/-- Fills a table. -/
def evalItems (c : Context) (b : Building) : List TableItem → Action Value
  | [] => b.finish []
  | [.item e] => do
    let vs ← eval c e
    b.finish vs
  | .item e :: rest => do
    let v ← first (eval c e)
    evalItems c { b with pending := v :: b.pending } rest
  | .field k e line :: rest => do
    let key ← first (eval c k)
    let v ← first (eval c e)
    rawSet (c.place line) b.address key v
    evalItems c b rest

end

/-! ### Assignments -/

/-- A value that is known, or the address of a variable that is still to be read. -/
inductive Late where
  | value (v : Value)
  | cell (a : Nat)

/-- The value, read now if it was not read before. -/
def Late.get : Late → Action Value
  | .value v => return v
  | .cell a => read (·.cell a)

/-- Where an assignment stores a value. -/
inductive Slot where
  | cell (a : Nat)
  | entry (object key : Late) (name : Option NameInUse) (line : Nat)

/-- The addresses of the variables that are assigned to. -/
def assignedCells (c : Context) (targets : List Target) : List Nat :=
  targets.filterMap fun t ↦
    match t with
    | .scope i => some (c.address i)
    | .captured i => some (c.captured.getD i 0)
    | .index .. => none

/-- A part of a target: a variable that the assignment leaves alone is read as late as possible. -/
def evalPart (c : Context) (assigned : List Nat) (e : Expr) : Action Late := do
  match c.lateAddress? e with
  | some a => if assigned.contains a then return .value (← read (·.cell a)) else return .cell a
  | none => return .value (← first (eval c e))

/-- Where a target stores its value. -/
def evalTarget (c : Context) (assigned : List Nat) : Target → Action Slot
  | .scope i => return .cell (c.address i)
  | .captured i => return .cell (c.captured.getD i 0)
  | .index o k line => do
    let object ← evalPart c assigned o
    let key ← evalPart c assigned k
    return .entry object key o.nameInUse line

/-- Where some targets store their values. -/
def evalTargets (c : Context) (assigned : List Nat) : List Target → Action (List Slot)
  | [] => return []
  | t :: ts => do
    let s ← evalTarget c assigned t
    return s :: (← evalTargets c assigned ts)

/-- Stores a value. -/
def store (c : Context) (line : Nat) (slot : Slot) (v : Value) : Action Unit := do
  match slot with
  | .cell a => update (·.setCell a v)
  | .entry object key name l =>
    let o ← object.get
    let k ← key.get
    setIndex (c.place (if l = 0 then line else l)) name o k v

/-- Stores values, the last one first. -/
def storeAll (c : Context) (line : Nat) : List (Slot × Value) → Action Unit
  | [] => return ()
  | (s, v) :: rest => do
    storeAll c line rest
    store c line s v

/-- As many values as wanted, with nil for those that are missing. -/
def adjust (n : Nat) (vs : List Value) : List Value :=
  vs.take n ++ List.replicate (n - vs.length) .nil

/-! ### Loops -/

/-- The number that a value of a loop is; a string may stand for one. -/
def loopNumber? : Value → Option Num
  | .str s => Num.read? s
  | v => v.toNum?

/-- Gives up because a value of a loop is not a number. -/
def loopFault {α : Type} (place : Option Place) (what : String) (v : Value) : Action α := do
  let type ← read (·.typeNameOf v)
  fault place (("bad 'for' " ++ what ++ " (number expected, got ").toUTF8 ++ type ++ ")".toUTF8)

/-- The last integer of a loop over integers; none if the loop does not run. -/
def loopLimit? (limit : Num) (first step : Int64) : Option Int64 :=
  let clipped : Option Int64 :=
    match limit with
    | .int n => some n
    | .float x =>
      let rounded := if step < 0 then x.ceil else x.floor
      match Num.exactInt? rounded with
      | some n => some n
      | none =>
        if 0 < x then (if step < 0 then none else some Int64.maxValue)
        else if 0 < step then none
        else some Int64.minValue
  clipped.bind fun n ↦
    if (if 0 < step then n < first else first < n) then none else some n

/-- How often a loop over integers runs after the first time. -/
def loopCount (first limit step : Int64) : UInt64 :=
  if 0 < step then (limit.toUInt64 - first.toUInt64) / step.toUInt64
  else (first.toUInt64 - limit.toUInt64) / ((-(step + 1)).toUInt64 + 1)

/-- Starts a loop over numbers. -/
def startRange (place : Option Place) (name : Name) (start limit step : Value) (body : Block) :
    Action Effect := do
  match start, step with
  | .int first, .int step =>
    if step = 0 then faultText place "'for' step is zero"
    else
      match loopNumber? limit with
      | none => loopFault place "limit" limit
      | some l =>
        match loopLimit? l first step with
        | none => return .next
        | some last => return .loopInts name first step (loopCount first last step) body
  | _, _ =>
    match loopNumber? limit with
    | none => loopFault place "limit" limit
    | some l =>
      match loopNumber? step with
      | none => loopFault place "step" step
      | some s =>
        match loopNumber? start with
        | none => loopFault place "initial value" start
        | some f =>
          let (first, last, by') := (f.toFloat, l.toFloat, s.toFloat)
          if by' == 0 then faultText place "'for' step is zero"
          else if (if 0 < by' then last < first else first < last) then return .next
          else return .loopFloats name first last by' body

/-- Checks that a value can be closed, and says whether it has to be. -/
def needsClosing (place : Option Place) (name : ByteArray) (v : Value) : Action Bool := do
  if !v.isTruthy then return false
  let handler ← read (·.metafield v MetaName.close)
  if handler.isNil then
    fault place ("variable '".toUTF8 ++ name ++ "' got a non-closable value".toUTF8)
  else return true

/-! ### Statements -/

/-- New variables for values. -/
def newCells : List (Name × Value) → Action (List (Name × Nat))
  | [] => return []
  | (name, v) :: rest => do
    let a ← newCell v
    return (name, a) :: (← newCells rest)

/-- The effect of a statement. -/
def exec (c : Context) : Statement → Action Effect
  | .declare names values line => do
    let vs ← evalList c values
    let cells ← newCells ((names.map Prod.fst).zip (adjust names.length vs))
    let closing := ((names.map Prod.snd).zip cells).find? fun (a, _) ↦ a = .close
    match closing with
    | none => return .declare cells
    | some (_, name, cell) =>
      let v ← read (·.cell cell)
      if ← needsClosing (c.place line) name v then return .declareClosing cells cell
      else return .declare cells
  | .assign [t] [e] line => do
    let slot ← evalTarget c [] t
    let v ← first (eval c e)
    store c line slot v
    return .next
  | .assign targets values line => do
    let slots ← evalTargets c (assignedCells c targets) targets
    let vs ← evalList c values
    storeAll c line (slots.zip (adjust slots.length vs))
    return .next
  | .run e => do
    let _ ← eval c e
    return .next
  | .scopeBlock body => return .enter body
  | .while condition body => return .loopWhile condition body
  | .repeat body => return .loopRepeat body
  | .until condition => do
    return if (← first (eval c condition)).isTruthy then .leaveLoop else .repeatLoop
  | .if condition yes no => do
    return .enter (if (← first (eval c condition)).isTruthy then yes else no)
  | .forRange name start limit step body line => do
    let first' ← first (eval c start)
    let limit' ← first (eval c limit)
    let step' ← match step with
      | some e => first (eval c e)
      | none => pure (.int 1)
    startRange (c.place line) name first' limit' step' body
  | .forEach names values body line => do
    match adjust 4 (← evalList c values) with
    | [iterator, state, control, closing] =>
      let needed ← needsClosing (c.place line) "(for state)".toUTF8 closing
      return .loopEach names iterator state control (if needed then closing else .nil) body line
    | _ => return .next
  | .declareFunction name body => do
    let a ← newCell .nil
    let f ← makeFunction { c with scope := (name, a) :: c.scope } body
    update (·.setCell a f)
    return .declare [(name, a)]
  | .return values => return .return (← evalList c values)
  | .tailCall (.call f args line) => do
    let function ← first (eval c f)
    let values ← evalList c args
    fun _ h ↦ (h, .tailCall function values ⟨line, f.nameInUse⟩)
  | .tailCall (.method o name args nameLine line) => do
    let object ← first (eval c o)
    let function ← index (c.place nameLine) o.nameInUse object (.str name)
    let values ← evalList c args
    fun _ h ↦ (h, .tailCall function (object :: values) ⟨line, some ("method", name)⟩)
  | .tailCall e => return .return (← eval c e)
  | .break => return .leaveLoop
  | .goto label => return .jump label
  | .label _ => return .next

end Action

end MacroStream.Script
