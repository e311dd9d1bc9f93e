import MacroStream.Script.Library.Arguments

/-!
# Functions on coroutines
-/

namespace MacroStream.Script.Library

open Action

/-- Argument `n` as the address of a thread. -/
def needThread (args : Args) (n : Nat) : Action Nat :=
  match arg args n with
  | .thread t => return t
  | _ => wrongType args n "thread"

/-- Resumes a thread, if it can be resumed. -/
def resumeThread (t : Nat) (args : Args) : Action (Except Value (List Value)) := do
  match ← read (·.threadStatus t) with
  | .finished | .failed _ => return .error (textValue "cannot resume dead coroutine")
  | .active => return .error (textValue "cannot resume non-suspended coroutine")
  | .fresh _ | .suspended => fun k h ↦ (h, .resume t args k)

/-- Closes a thread. -/
def closeThread (t : Nat) : Action (Except Value Unit) := fun k h ↦ (h, .closeThread t k)

/-- The word for what a thread is doing. -/
def statusText (t : Nat) : Action String :=
  read fun h ↦
    match h.threadStatus t with
    | .fresh _ | .suspended => "suspended"
    | .active => if h.running = t then "running" else "normal"
    | .finished | .failed _ => "dead"

/-- Resumes a coroutine for a function that hides it: an error in it is passed on, with the place of
the caller in front, and the coroutine is closed. -/
def resumeHidden (t : Nat) (args : Args) : Action (List Value) := do
  match ← resumeThread t args with
  | .ok vs => return vs
  | .error e =>
    let e ← match ← read (·.threadStatus t) with
      | .failed _ => do
        match ← closeThread t with
        | .error e => pure e
        | .ok () => pure e
      | _ => pure e
    match e with
    | .str s => throw (.str ((← placeOf 1) ++ s))
    | e => throw e

/-- Runs a function on coroutines. -/
def coroutine (f : CoroutineFunction) (args : Args) : Action (List Value) :=
  match f with
  | .create => do
    let g ← needFunction args 1
    return [.thread (← modifyGet (·.newThread g))]
  | .wrap => do
    let g ← needFunction args 1
    let t ← modifyGet (·.newThread g)
    return [← modifyGet (·.newFunction (.resumer t))]
  | .resume => do
    let t ← needThread args 1
    match ← resumeThread t (args.drop 1) with
    | .ok vs => return .bool true :: vs
    | .error e => return [.bool false, e]
  | .yield => fun k h ↦ (h, .yield args k)
  | .status => do
    let t ← needThread args 1
    return [textValue (← statusText t)]
  | .running => do
    let t ← read Heap.running
    return [.thread t, .bool (t = 0)]
  | .isyieldable =>
    match arg args 1 with
    | .thread t => do
      let current ← read Heap.running
      if t = current then do return [.bool (← canYield)] else return [.bool (t ≠ 0)]
    | _ => do return [.bool (← canYield)]
  | .close => do
    let t ← needThread args 1
    let status ← statusText t
    if status = "suspended" || status = "dead" then
      match ← closeThread t with
      | .ok () => return [.bool true]
      | .error e => return [.bool false, e]
    else fail ("cannot close a " ++ status ++ " coroutine")
where
  /-- Whether the running thread can yield. -/
  canYield : Action Bool := fun k h ↦ (h, .canYield k)

end MacroStream.Script.Library
