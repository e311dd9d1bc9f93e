import MacroStream.Script.Library
import MacroStream.Script.Memory

/-!
# The machine that runs scripts

A `Machine` holds the stacks of all threads. `Machine.step` answers one signal of the running
computation; it either goes on, or asks the host for something, or comes to an `Ending`. `run`
repeats it, with the host's answers given in a monad of the host's choice.

The thread that runs is the one that the heap names. A thread that resumed another one waits in
`waiting`; when there is no thread left that waits, the host is told how the last one ended.

What is thrown is first shown to the handler of the innermost protected call of the thread, on top of
the stack as it is. Then the functions above the protected call are given up, their variables are
closed, and the call answers. A thread without a protected call ends; its variables stay open until
it is closed.
-/

namespace MacroStream.Script

/-- How the work for the host ended. -/
inductive Ending where
  | returned (vs : List Value)
  /-- The thread that the host resumed has yielded. -/
  | yielded (vs : List Value)
  | threw (t : Thrown)
  /-- The number of steps was used up. -/
  | exhausted

/-- The stacks of all threads. -/
structure Machine where
  /-- The stack of the thread that runs. -/
  frames : List Frame := []
  /-- The stacks of the other threads, by their addresses. -/
  parked : Array (List Frame) := #[]
  /-- The threads that wait for one that they resumed, the last one first. -/
  waiting : List Nat := []

instance : Inhabited Machine := ⟨{}⟩

/-- What comes of a step. -/
inductive Turn where
  | go (m : Machine) (h : Heap) (s : Signal)
  | ask (m : Machine) (h : Heap) (r : Request) (k : r.Reply → Heap → Heap × Signal)
  | stop (m : Machine) (h : Heap) (e : Ending)

instance : Inhabited Turn := ⟨.stop {} {} .exhausted⟩

namespace Machine

/-! ### Limits -/

/-- Calls from outside the script language nest less deeply than this. -/
def depthLimit : Nat := 200

/-- Handlers of errors may nest a little deeper. -/
def handlerLimit : Nat := 220

/-- How many values a stack holds at most. -/
def slotLimit : Nat := 1000000

/-- How many values a library function keeps. -/
def librarySlots : Nat := 20

/-- How many metatables may be asked for the function that a value stands for. -/
def calleeLimit : Nat := 200

/-! ### Stacks -/

/-- The stack of a thread that does not run. -/
def stackOf (m : Machine) (t : Nat) : List Frame := m.parked.getD t []

/-- The stack of any thread. -/
def framesOf (m : Machine) (h : Heap) (t : Nat) : List Frame :=
  if t = h.running then m.frames else m.stackOf t

/-- Puts a stack aside. -/
def park (m : Machine) (t : Nat) (frames : List Frame) : Machine :=
  let ⟨own, parked, waiting⟩ := m
  let parked := if t < parked.size then parked
    else parked ++ Array.replicate (t + 1 - parked.size) []
  ⟨own, parked.setIfInBounds t frames, waiting⟩

/-- Changes the innermost function. -/
def modifyTop (m : Machine) (f : Frame → Frame) : Machine :=
  match m.frames with
  | top :: rest => { m with frames := f top :: rest }
  | [] => m

/-- Says what the innermost function waits for. -/
def await (m : Machine) (p : Pending) : Machine := m.modifyTop fun f ↦ { f with pending := p }

/-- All functions that have not returned. -/
def allFrames (m : Machine) : List Frame := m.frames ++ m.parked.toList.flatten

/-- How deeply calls are nested at the innermost function. -/
def depth (m : Machine) : Nat := (m.frames.head?.map Frame.depth).getD 0

/-- How many values the functions keep. -/
def slots (m : Machine) : Nat := (m.frames.head?.map Frame.slots).getD 0

/-- Throws a text that the machine itself has to say, with the place of the innermost function in
front if it is a script's. -/
def complain (m : Machine) (h : Heap) (message : ByteArray) : Turn :=
  let place := m.frames.head?.bind Frame.place
  .go m h (.throw ⟨.str ((place.map Place.text).getD .empty ++ message), .runtime⟩)

/-! ### Calls -/

/-- What is run when a value is called. -/
inductive Callee where
  | script (body : FunctionBody) (captured : Array Nat)
  | library (x : Action (List Value))
  /-- Nothing; the value cannot be called. -/
  | nothing

/-- What is run when a value is called, with the function and its arguments. A value that is no
function is replaced by what its metatable names, which is given the value as its first argument. -/
def callee (h : Heap) : Nat → Value → List Value → Value × List Value × Callee
  | 0, f, args => (f, args, .nothing)
  | fuel + 1, f, args =>
    match f with
    | .primitive p => (f, args, .library (Library.runPrimitive p args))
    | .function a =>
      match h.function? a with
      | some (.script body captured) => (f, args, .script body captured)
      | some g => (f, args, .library (Library.runObject g args))
      | none => (f, args, .nothing)
    | f =>
      let handler := h.metafield f MetaName.call
      if handler.isNil then (f, args, .nothing) else callee h fuel handler (f :: args)

/-- Cells for the parameters of a function, in scope with the last one first. -/
def bindParams : List Name → List Value → Scope → Heap → Scope × Heap
  | [], _, scope, h => (scope, h)
  | p :: ps, args, scope, h =>
    let (cell, h) := h.newCell (args.headD .nil)
    bindParams ps (args.drop 1) ((p, cell) :: scope) h

/-- Begins a function of a script on top of the stack. -/
def beginScript (m : Machine) (h : Heap) (f : Value) (body : FunctionBody) (captured : Array Nat)
    (args : List Value) (name : Option NameInUse) (isTail : Bool) (depth slots : Nat) : Turn :=
  let info := body.info
  let (scope, h) := bindParams info.params args [] h
  let activation : Activation :=
    { info, captured, scope
      varargs := if info.isVararg then args.drop info.params.length else []
      control := [.block body.block.statements body.block [] []] }
  let frame : Frame :=
    { function := f, activation := some activation, name, isTail, line := info.lineDefined
      pending := .none, depth, slots }
  .go { m with frames := frame :: m.frames } h (.effect .next)

/-- Begins a function that is not a script's on top of the stack. -/
def beginLibrary (m : Machine) (h : Heap) (f : Value) (x : Action (List Value))
    (name : Option NameInUse) (depth slots : Nat) : Turn :=
  let frame : Frame :=
    { function := f, activation := none, name, isTail := false, line := 0
      pending := .none, depth, slots }
  let (h, s) := x (fun vs h ↦ (h, .answer vs)) h
  .go { m with frames := frame :: m.frames } h s

/-- Begins the function that a value stands for; `isTail` lets it replace the innermost function, if
both are a script's. -/
def enter (m : Machine) (h : Heap) (f : Value) (args : List Value) (site : CallSite)
    (isTail : Bool) (depth : Nat) : Turn :=
  let slots := m.slots
  match callee h calleeLimit f args with
  | (f, _, .library x) =>
    if slotLimit < slots + librarySlots then m.complain h "stack overflow".toUTF8
    else m.beginLibrary h f x site.name depth (slots + librarySlots)
  | (f, args, .script body captured) =>
    let size := body.info.frameSize + args.length
    if slotLimit < slots + size then m.complain h "stack overflow".toUTF8
    else if isTail then
      let m := { m with frames := m.frames.drop 1 }
      m.beginScript h f body captured args none true depth (m.slots + size)
    else m.beginScript h f body captured args site.name false depth (slots + size)
  | (f, _, .nothing) =>
    m.complain h ("attempt to call a ".toUTF8 ++ h.typeNameOf f ++ " value".toUTF8 ++
      nameText site.name)

/-- Whether a call nests: it does unless a script calls. -/
def nests (m : Machine) (site : CallSite) : Bool :=
  match m.frames with
  | f :: _ => f.activation.isNone || (site.name.map Prod.fst) == some "metamethod"
  | [] => false

/-- Remembers the line of a call. -/
def atLine (m : Machine) (line : Nat) : Machine :=
  if line = 0 then m else m.modifyTop fun f ↦ { f with line }

/-- Calls a value on top of the stack; `nested` says that the call nests. -/
def call (m : Machine) (h : Heap) (f : Value) (args : List Value) (site : CallSite)
    (nested : Bool) : Turn :=
  let m := m.atLine site.line
  if nested then
    let depth := m.depth + 1
    if depth = depthLimit then
      (m.modifyTop fun f ↦ { f with depth }).complain h "C stack overflow".toUTF8
    else if handlerLimit ≤ depth then
      .go m h (.throw ⟨.ofString "error in error handling", .handler⟩)
    else m.enter h f args site false depth
  else m.enter h f args site false m.depth

/-- Lets a script's function that the innermost function calls take its place. -/
def tailCall (m : Machine) (h : Heap) (f : Value) (args : List Value) (site : CallSite) : Turn :=
  let m := (m.await (.values fun vs h ↦ (h, .effect (.return vs)))).atLine site.line
  m.enter h f args site true m.depth

/-! ### Threads -/

/-- Goes back to the thread that waits for the running one, or to the host. -/
def wake (m : Machine) (h : Heap) (result : Except Value (List Value)) (ending : Ending) : Turn :=
  match m.waiting with
  | [] => .stop { m with frames := [] } h ending
  | t :: waiting =>
    let m := { m with frames := m.stackOf t, waiting }.park t []
    let h := { h with running := t }
    match m.frames.head?.map Frame.pending with
    | some (.thread k) =>
      let (h, s) := k result h
      .go (m.await .none) h s
    | _ => .stop m h ending

/-- Ends the running thread. The main thread never ends. -/
def finish (m : Machine) (h : Heap) (vs : List Value) : Turn :=
  let h := if h.running = 0 then h else h.setThreadStatus h.running .finished
  m.wake h (.ok vs) (.returned vs)

/-- Gives the running thread up; its stack is kept until it is closed. -/
def fail (m : Machine) (h : Heap) (t : Thrown) : Turn :=
  let running := h.running
  let m := if running = 0 then m else m.park running m.frames
  let h := if running = 0 then h else h.setThreadStatus running (.failed t.value)
  m.wake h (.error t.value) (.threw t)

/-- Whether the running thread can yield. -/
def canYield (m : Machine) (h : Heap) : Bool :=
  h.running ≠ 0 && (m.frames.drop 1).all Frame.letsYield

/-- Yields. -/
def yield (m : Machine) (h : Heap) (vs : List Value)
    (k : List Value → Heap → Heap × Signal) : Turn :=
  let running := h.running
  if m.canYield h then
    let m := m.await (.values k)
    (m.park running m.frames).wake (h.setThreadStatus running .suspended) (.ok vs) (.yielded vs)
  else if running = 0 then
    .go m h (.throw ⟨.ofString "attempt to yield from outside a coroutine", .runtime⟩)
  else .go m h (.throw ⟨.ofString "attempt to yield across a C-call boundary", .runtime⟩)

/-- Lets a thread go on that has not begun or has yielded. -/
def continueThread (m : Machine) (h : Heap) (t : Nat) (args : List Value) (depth : Nat) : Turn :=
  let status := h.threadStatus t
  let frames := (m.stackOf t).map fun f ↦ { f with depth }
  let m := { m with frames }.park t []
  let h := { h.setThreadStatus t .active with running := t }
  match status with
  | .fresh f => m.enter h f args {} false depth
  | _ =>
    match m.frames.head?.map Frame.pending with
    | some (.values k) =>
      let (h, s) := k args h
      .go (m.await .none) h s
    | _ => m.finish h []

/-- Resumes a thread. -/
def resume (m : Machine) (h : Heap) (t : Nat) (args : List Value)
    (k : Except Value (List Value) → Heap → Heap × Signal) : Turn :=
  if depthLimit ≤ m.depth then
    let (h, s) := k (.error (.ofString "C stack overflow")) h
    .go m h s
  else
    let running := h.running
    let depth := m.depth + 1
    let m := m.await (.thread k)
    let m := m.park running m.frames
    { m with waiting := running :: m.waiting }.continueThread h t args depth

/-! ### Closing variables -/

/-- Calls what closes a variable. -/
def close (m : Machine) (h : Heap) (cell : Nat) (error : Value) : Turn :=
  let v := h.cell cell
  m.call h (h.metafield v MetaName.close) [v, error] ⟨0, some ("metamethod", "close".toUTF8)⟩ true

/-- Goes on with closing variables for a function that is told when all is done. -/
def closeNext (m : Machine) (h : Heap) (c : Catcher) (cells : List Nat) (error : Option Thrown) :
    Turn :=
  match cells with
  | cell :: rest =>
    (m.await (.closing c rest error)).close h cell ((error.map Thrown.value).getD .nil)
  | [] =>
    let m := m.await .none
    let tell (told : Heap × Signal) : Turn := .go m told.1 told.2
    match c, error with
    | .protectedCall _ k, some t => tell (k (.error t.value) h)
    | .protectedCall _ k, none => tell (k (.ok []) h)
    | .threadCloser k, some t => tell (k (.error t.value) h)
    | .threadCloser k, none => tell (k (.ok ()) h)
    | .host, some t => .stop { m with frames := [] } h (.threw t)
    | .host, none => .stop { m with frames := [] } h (.returned [])

/-- Ends a thread that does not run, and closes its variables. -/
def closeThread (m : Machine) (h : Heap) (t : Nat)
    (k : Except Value Unit → Heap → Heap × Signal) : Turn :=
  let cells := (m.stackOf t).flatMap Frame.closingCells
  let error : Option Thrown := match h.threadStatus t with
    | .failed v => some ⟨v, .runtime⟩
    | _ => none
  (m.park t []).closeNext (h.setThreadStatus t .finished) (.threadCloser k) cells error

/-! ### Thrown values -/

/-- The stack from the innermost function that catches what is thrown, with whom to tell; `cells` and
the variables of the functions above have to be closed first. -/
def findCatcher : List Nat → List Frame → Option (Catcher × List Nat × List Frame)
  | _, [] => none
  | cells, f :: rest =>
    let cells := cells ++ f.closingCells
    match f.pending.catcher? with
    | some (c, _) => some (c, cells, f :: rest)
    | none => findCatcher cells rest

/-- Gives up the functions above the one that catches. -/
def unwind (m : Machine) (h : Heap) (t : Thrown) : Turn :=
  match findCatcher [] m.frames with
  | some (c, cells, frames) => { m with frames }.closeNext h c cells (some t)
  | none => m.fail h t

/-- The handler that sees a thrown value. -/
def handler? (m : Machine) : Option Value :=
  let catcher : Option (Catcher × List Nat) := m.frames.findSome? fun f ↦ f.pending.catcher?
  match catcher with
  | some (.protectedCall handler _, _) => handler
  | _ => none

/-- Throws a value. -/
def throw (m : Machine) (h : Heap) (t : Thrown) : Turn :=
  match m.handler?, t.kind with
  | some handler, .runtime =>
    (m.modifyTop fun f ↦ { f with pending := .handling f.pending }).call h handler [t.value] {} true
  | _, _ => m.unwind h t

/-! ### Answers -/

/-- Hands values to the innermost function, which waits for them. -/
def deliver (m : Machine) (h : Heap) (vs : List Value) : Turn :=
  match m.frames with
  | [] => m.finish h vs
  | f :: rest =>
    let go (told : Heap × Signal) : Turn := .go (m.await .none) told.1 told.2
    match f.pending with
    | .none => m.finish h vs
    | .values k => go (k vs h)
    | .caught (.protectedCall _ k) => go (k (.ok vs) h)
    | .caught (.threadCloser k) => go (k (.ok ()) h)
    | .caught .host => .stop { m with frames := [] } h (.returned vs)
    | .closing c cells error => m.closeNext h c cells error
    | .handling before =>
      { m with frames := { f with pending := before } :: rest }.unwind h ⟨vs.headD .nil, .runtime⟩
    | .thread k => go (k (.ok vs) h)

/-- Hands values to the function below the innermost one, which is done. -/
def answer (m : Machine) (h : Heap) (vs : List Value) : Turn :=
  { m with frames := m.frames.drop 1 }.deliver h vs

/-- Carries out what a statement asks for. -/
def perform (m : Machine) (h : Heap) (e : Effect) : Turn :=
  match m.frames with
  | [] => m.finish h []
  | f :: rest =>
    match f.activation with
    | none => m.answer h []
    | some a =>
      let (a, h, move) := a.apply e h
      let m := { m with frames := { f with activation := some a } :: rest }
      match move with
      | .run x =>
        let (h, s) := x (fun e h ↦ (h, .effect e)) h
        .go m h s
      | .leave vs => { m with frames := rest }.deliver h vs
      | .close cell goal => (m.await (.values fun _ h ↦ (h, .effect goal))).close h cell .nil
      | .iterate iterator args line =>
        (m.await (.values fun vs h ↦ (h, .effect (.iterate vs)))).call h iterator args
          ⟨line, some ("for iterator", "for iterator".toUTF8)⟩ false

/-- Finds out how much memory is in use. -/
def collect (m : Machine) (h : Heap) : Heap := { h with used := Memory.inUse h m.allFrames }

/-- Carries out what a statement asks for, if there is memory. -/
def performWithin (m : Machine) (h : Heap) (e : Effect) : Turn :=
  if h.limit ≠ 0 && h.limit < h.used then
    let h := m.collect h
    if h.limit < h.used then .go m h (.throw ⟨.ofString "not enough memory", .memory⟩)
    else m.perform h e
  else m.perform h e

/-- What can be known of a function of a thread. -/
def view (m : Machine) (h : Heap) (t level : Nat) : Option FrameView :=
  match (m.framesOf h t)[level]? with
  | some f => if f.function.isNil then none else some f.view
  | none => none

/-- Answers a signal of the running computation. -/
def step (m : Machine) (h : Heap) (s : Signal) : Turn :=
  let go (told : Heap × Signal) : Turn := .go m told.1 told.2
  match s with
  | .answer vs => m.answer h vs
  | .effect e => m.performWithin h e
  | .call f args site k => (m.await (.values k)).call h f args site (m.nests site)
  | .tailCall f args site => m.tailCall h f args site
  | .throw t => m.throw h t
  | .protect handler f args k =>
    (m.await (.caught (.protectedCall handler k))).call h f args {} true
  | .yield vs k => m.yield h vs k
  | .resume t args k => m.resume h t args k
  | .closeThread t k => m.closeThread h t k
  | .view t level k => go (k (m.view h t level) h)
  | .canYield k => go (k (m.canYield h) h)
  | .depth k => go (k m.depth h)
  | .collect k => go (k (m.collect h))
  | .ask r k => .ask m h r k

/-! ### Work for the host -/

/-- The host, at the bottom of a stack. -/
def hostFrame : Frame :=
  { function := .nil, activation := none, name := none, isTail := false, line := 0
    pending := .caught .host, depth := 0, slots := 0 }

/-- Begins a call for the host. -/
def beginCall (m : Machine) (h : Heap) (f : Value) (args : List Value) : Turn :=
  { m with frames := [hostFrame], waiting := [] }.call { h with running := 0 } f args {} true

/-- Begins to resume a thread for the host. -/
def beginResume (m : Machine) (h : Heap) (t : Nat) (args : List Value) : Turn :=
  { m with frames := [], waiting := [] }.continueThread h t args 1

end Machine

/-- Takes turns, at most `fuel` of them, until the work for the host has ended. -/
@[specialize] def run {m : Type → Type} [Monad m] (handle : (r : Request) → m r.Reply) :
    Nat → Turn → m (Machine × Heap × Ending)
  | _, .stop machine h e => pure (machine, h, e)
  | 0, .go machine h _ => pure (machine, h, .exhausted)
  | 0, .ask machine h _ _ => pure (machine, h, .exhausted)
  | fuel + 1, .go machine h s => run handle fuel (machine.step h s)
  | fuel + 1, .ask machine h r k => do
    let reply ← handle r
    let (h, s) := k reply h
    run handle fuel (.go machine h s)

/-- More steps than any script takes, and so more lines than any script gives. -/
def stepLimit : Nat := 1000000000000000000

end MacroStream.Script
