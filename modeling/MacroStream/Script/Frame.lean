import MacroStream.Script.Evaluator

/-!
# Functions that have not returned

A stack is a list of frames, the innermost function first. The frame of a function that a script
wrote holds an `Activation`: what is in scope, and which blocks and loops are still to be finished.
A frame also says what it waits for, so that an answer of the function above it, a thrown value or a
resumption finds its way.

Two decisions shape the control of an activation:

* a block keeps the scope outside of it, so leaving it needs no counting; jumps alone count;
* a variable that has to be closed is listed in its block and taken off the list before it is
  closed, so that whatever its closing does, no variable is closed twice.
-/

namespace MacroStream.Script

/-- Variables in scope with their addresses, the newest first. -/
abbrev Scope := List (Name × Nat)

/-- What is still to be finished in a function of a script. -/
inductive Control where
  /-- Statements of a block; `outer` is the scope outside of it. The variables to close come with the
  number of variables that were in scope before them, the newest first. -/
  | block (rest : List Statement) (body : Block) (outer : Scope) (closing : List (Nat × Nat))
  | whileLoop (condition : Expr) (body : Block)
  | repeatLoop (body : Block)
  /-- A loop with `left` integers to go. -/
  | intLoop (name : Name) (next step : Int64) (left : Nat) (body : Block) (outer : Scope)
  /-- A loop over numbers; the first one is certain. -/
  | floatLoop (name : Name) (next limit step : Float) (isFirst : Bool) (body : Block)
      (outer : Scope)
  | eachLoop (names : List Name) (iterator state control : Value) (body : Block) (line : Nat)
      (outer : Scope)

/-- A function of a script that runs. -/
structure Activation where
  info : FunctionInfo
  captured : Array Nat
  varargs : List Value
  scope : Scope
  /-- The innermost block or loop first. -/
  control : List Control

/-- What an activation does next. -/
inductive Move where
  /-- Carries out a statement. -/
  | run (x : Action Effect)
  /-- Closes a variable and then goes on with an effect. -/
  | close (cell : Nat) (goal : Effect)
  /-- Asks the iterator of a loop. -/
  | iterate (iterator : Value) (args : List Value) (line : Nat)
  /-- Returns from the function. -/
  | leave (vs : List Value)

namespace Activation

/-- What surrounds the expressions of an activation. -/
def context (a : Activation) : Context := ⟨a.scope, a.captured, a.varargs, a.info.source⟩

/-- Goes on with the next statement. -/
def goOn : Move := .run (pure .next)

/-- The scope inside a loop: behind its own variables come some that have no names in the source. -/
def loopScope (n : Nat) (outer : Scope) : Scope :=
  List.replicate n ("(for state)".toUTF8, 0) ++ outer

/-- Enters a block whose own first variables are `vars`, the newest first. -/
def enter (a : Activation) (vars outer : Scope) (body : Block) (below : List Control) : Activation :=
  { a with scope := vars ++ outer, control := .block body.statements body outer [] :: below }

/-- Goes on with what is innermost. -/
def next (a : Activation) (h : Heap) : Activation × Heap × Move :=
  match a.control with
  | [] => (a, h, .leave [])
  | .block (s :: rest) body outer closing :: below =>
    let a := { a with control := .block rest body outer closing :: below }
    (a, h, .run (Action.exec a.context s))
  | .block [] body outer ((cell, _) :: closing) :: below =>
    ({ a with control := .block [] body outer closing :: below }, h, .close cell .next)
  | .block [] _ outer [] :: below => ({ a with scope := outer, control := below }, h, goOn)
  | .whileLoop condition body :: _ =>
    let test : Action Effect := do
      return if (← Action.first (Action.eval a.context condition)).isTruthy then .enter body
        else .leaveLoop
    (a, h, .run test)
  | .repeatLoop body :: _ => (a.enter [] a.scope body a.control, h, goOn)
  | .intLoop _ _ _ 0 _ outer :: below => ({ a with scope := outer, control := below }, h, goOn)
  | .intLoop name n step (left + 1) body outer :: below =>
    let (cell, h) := h.newCell (.int n)
    (a.enter [(name, cell)] (loopScope 3 outer) body
      (.intLoop name (n + step) step left body outer :: below), h, goOn)
  | .floatLoop name x limit step isFirst body outer :: below =>
    if isFirst || (if 0 < step then x ≤ limit else limit ≤ x) then
      let (cell, h) := h.newCell (.float x)
      (a.enter [(name, cell)] (loopScope 3 outer) body
        (.floatLoop name (x + step) limit step false body outer :: below), h, goOn)
    else ({ a with scope := outer, control := below }, h, goOn)
  | .eachLoop _ iterator state control _ line outer :: _ =>
    ({ a with scope := loopScope 4 outer }, h, .iterate iterator [state, control] line)

/-- Runs the body of a loop with what its iterator gave, or ends the loop. -/
def iterate (a : Activation) (vs : List Value) (h : Heap) : Activation × Heap × Move :=
  match a.control with
  | .eachLoop names iterator state _ body line outer :: below =>
    let first := vs.headD .nil
    if first.isNil then ({ a with scope := outer, control := below }, h, goOn)
    else
      let (vars, h) := (names.zip (Action.adjust names.length vs)).foldl
        (fun (acc : Scope × Heap) (name, v) ↦
          let (cell, h) := acc.2.newCell v
          ((name, cell) :: acc.1, h)) ([], h)
      (a.enter vars (loopScope 4 outer) body
        (.eachLoop names iterator state first body line outer :: below), h, goOn)
  | _ => (a, h, goOn)

/-- The scope outside a block or loop. -/
def outerScope (a : Activation) : Control → Scope
  | .block _ _ outer _ | .intLoop _ _ _ _ _ outer | .floatLoop _ _ _ _ _ _ outer
  | .eachLoop _ _ _ _ _ _ outer => outer
  | .whileLoop .. | .repeatLoop .. => a.scope

/-- Leaves blocks up to the innermost loop, and then the loop. -/
def leaveLoop (a : Activation) (h : Heap) : Activation × Heap × Move :=
  match a.control with
  | [] => (a, h, goOn)
  | .block _ body outer ((cell, _) :: closing) :: below =>
    ({ a with control := .block [] body outer closing :: below }, h, .close cell .leaveLoop)
  | .block _ _ outer [] :: below =>
    ({ a with scope := outer, control := below }, h, .run (pure .leaveLoop))
  | c :: below => ({ a with scope := a.outerScope c, control := below }, h, goOn)

/-- Leaves blocks up to the innermost loop, which starts its body again. -/
def repeatLoop (a : Activation) (h : Heap) : Activation × Heap × Move :=
  match a.control with
  | .block _ body outer ((cell, _) :: closing) :: below =>
    ({ a with control := .block [] body outer closing :: below }, h, .close cell .repeatLoop)
  | .block _ _ outer [] :: below =>
    ({ a with scope := outer, control := below }, h, .run (pure .repeatLoop))
  | _ => (a, h, goOn)

/-- Leaves blocks and loops up to the block of a label, and goes on behind the label. -/
def jump (a : Activation) (label : Name) (h : Heap) : Activation × Heap × Move :=
  match a.control with
  | [] => (a, h, goOn)
  | .block rest body outer closing :: below =>
    match body.labels.find? fun (name, _) ↦ name == label with
    | some (_, depth, position) =>
      let kept := outer.length + depth
      match closing with
      | (cell, before) :: closing' =>
        if kept ≤ before then
          ({ a with control := .block rest body outer closing' :: below }, h,
            .close cell (.jump label))
        else (arrive kept position body outer closing below, h, goOn)
      | [] => (arrive kept position body outer closing below, h, goOn)
    | none =>
      match closing with
      | (cell, _) :: closing =>
        ({ a with control := .block [] body outer closing :: below }, h, .close cell (.jump label))
      | [] => ({ a with scope := outer, control := below }, h, .run (pure (.jump label)))
  | c :: below =>
    ({ a with scope := a.outerScope c, control := below }, h, .run (pure (.jump label)))
where
  /-- The activation behind a label, with the first `kept` variables in scope. -/
  arrive (kept position : Nat) (body : Block) (outer : Scope) (closing : List (Nat × Nat))
      (below : List Control) : Activation :=
    { a with
      scope := a.scope.drop (a.scope.length - kept)
      control := .block (body.statements.drop position) body outer closing :: below }

/-- The innermost variable that has to be closed, and what is left when it is taken away. -/
def nextClosing : List Control → Option (Nat × List Control)
  | [] => none
  | .block _ body outer ((cell, _) :: closing) :: below =>
    some (cell, .block [] body outer closing :: below)
  | _ :: below => nextClosing below

/-- Returns, when all variables that have to be closed are closed. -/
def «return» (a : Activation) (vs : List Value) (h : Heap) : Activation × Heap × Move :=
  match nextClosing a.control with
  | none => (a, h, .leave vs)
  | some (cell, control) => ({ a with control }, h, .close cell (.return vs))

/-- Brings variables into scope. -/
def declare (a : Activation) (vars : List (Name × Nat)) : Activation :=
  { a with scope := vars.reverse ++ a.scope }

/-- Brings variables into scope of which one has to be closed. -/
def declareClosing (a : Activation) (vars : List (Name × Nat)) (cell : Nat) : Activation :=
  let before := a.scope.length + (vars.findIdx fun (_, c) ↦ c = cell)
  let a := a.declare vars
  match a.control with
  | .block rest body outer closing :: below =>
    { a with control := .block rest body outer ((cell, before) :: closing) :: below }
  | _ => a

/-- Starts a loop over what an iterator gives. A value that has to be closed behind the loop is
closed like a variable of a block around it. -/
def loopEach (a : Activation) (names : List Name) (iterator state control closing : Value)
    (body : Block) (line : Nat) (h : Heap) : Activation × Heap :=
  let loop : Control := .eachLoop names iterator state control body line a.scope
  if closing.isNil then ({ a with control := loop :: a.control }, h)
  else
    let (cell, h) := h.newCell closing
    let around : Control := .block [] (.mk [] []) a.scope [(cell, a.scope.length)]
    ({ a with control := loop :: around :: a.control }, h)

/-- What an effect does to an activation. -/
def apply (a : Activation) (e : Effect) (h : Heap) : Activation × Heap × Move :=
  match e with
  | .next => a.next h
  | .declare vars => (a.declare vars).next h
  | .declareClosing vars cell => (a.declareClosing vars cell).next h
  | .enter body => (a.enter [] a.scope body a.control).next h
  | .loopWhile condition body =>
    { a with control := .whileLoop condition body :: a.control }.next h
  | .loopRepeat body => { a with control := .repeatLoop body :: a.control }.next h
  | .loopInts name first step count body =>
    { a with
      control := .intLoop name first step (count.toNat + 1) body a.scope :: a.control }.next h
  | .loopFloats name first limit step body =>
    { a with control := .floatLoop name first limit step true body a.scope :: a.control }.next h
  | .loopEach names iterator state control closing body line =>
    let (a, h) := a.loopEach names iterator state control closing body line h
    a.next h
  | .iterate vs => a.iterate vs h
  | .leaveLoop => a.leaveLoop h
  | .repeatLoop => a.repeatLoop h
  | .jump label => a.jump label h
  | .return vs => a.return vs h

end Activation

/-! ### Frames -/

/-- Who is told of a value that is thrown. -/
inductive Catcher where
  /-- A library function, when the handler has seen the value. -/
  | protectedCall (handler : Option Value)
      (k : Except Value (List Value) → Heap → Heap × Signal)
  /-- A library function that closes the variables of a thread. -/
  | threadCloser (k : Except Value Unit → Heap → Heap × Signal)
  /-- The program that the script runs for. -/
  | host

/-- What a function that has called another one waits for. -/
inductive Pending where
  /-- Nothing; it runs. -/
  | none
  | values (k : List Value → Heap → Heap × Signal)
  /-- What the functions above it answer or throw. -/
  | caught (c : Catcher)
  /-- The end of the closing of variables, after something was thrown if there is an `error`. -/
  | closing (c : Catcher) (cells : List Nat) (error : Option Thrown)
  /-- A handler's opinion of what the function threw while it waited for something else. -/
  | handling (before : Pending)
  /-- A thread. -/
  | thread (k : Except Value (List Value) → Heap → Heap × Signal)

/-- Who is told of what is thrown above, and which variables are to be closed first. -/
def Pending.catcher? : Pending → Option (Catcher × List Nat)
  | caught c => some (c, [])
  | closing c cells _ => some (c, cells)
  | handling before => before.catcher?
  | _ => .none

/-- A function that has not returned. -/
structure Frame where
  /-- The function; nil stands for the program that the script runs for. -/
  function : Value
  /-- A function of a script. -/
  activation : Option Activation
  name : Option NameInUse
  isTail : Bool
  /-- The line of the last call. -/
  line : Nat
  pending : Pending
  /-- How deeply calls from outside the script language are nested. -/
  depth : Nat
  /-- How many values this function and those below it keep. -/
  slots : Nat

namespace Frame

/-- What can be known of the function. -/
def view (f : Frame) : FrameView where
  function := f.function
  info := f.activation.map Activation.info
  line := f.line
  locals := (f.activation.map fun a ↦ a.scope.reverse).getD []
  varargs := (f.activation.map Activation.varargs).getD []
  name := f.name
  isTail := f.isTail

/-- The place that the function is at. -/
def place (f : Frame) : Option Place := f.activation.map fun a ↦ ⟨a.info.source, f.line⟩

/-- Whether a function above this one may yield: this one has to be a script's, or a library function
that knows how to go on. -/
def letsYield (f : Frame) : Bool :=
  match f.activation, f.pending, f.function with
  | _, .handling _, _ => false
  | some _, _, _ => true
  | none, _, .primitive (.base .pcall) | none, _, .primitive (.base .xpcall)
  | none, _, .primitive (.base .dofile) | none, _, .primitive (.base .pairs) => true
  | none, _, _ => false

/-- The variables that have to be closed when the function is given up, the newest first. -/
def closingCells (f : Frame) : List Nat :=
  match f.activation with
  | some a => a.control.flatMap fun c ↦
      match c with
      | .block _ _ _ closing => closing.map Prod.fst
      | _ => []
  | none => (f.pending.catcher?.map Prod.snd).getD []

end Frame

end MacroStream.Script
