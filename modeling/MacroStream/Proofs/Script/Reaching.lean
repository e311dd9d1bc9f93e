import MacroStream.Proofs.Script.Endings
import MacroStream.Proofs.Script.Extension

/-!
# What running functions come to

A function in the middle of a stack does not come to an end for the host: it hands values to the
function that called it. So what is said here of a turn is that the machine comes from it to a turn
of a certain kind (`Turn.Reaches`), and what is said of a computation is what it hands on, whatever
is done with that (`Action.Does`). A call is a computation like any other one: the function that is
called runs on top of the stack, and is gone when its values are there.

Memory may be limited, and it may run out anywhere. Then a turn is reached that throws `noMemory`,
and nothing more is said. How much memory is in use is not followed, since the machine counts it
again at times; so what is asked of a heap is asked for every `used`.
-/

namespace MacroStream.Script

/-! ### Turns -/

/-- The machine goes on with what a computation came to. -/
def Machine.tell (m : Machine) (told : Heap × Signal) : Turn := .go m told.1 told.2

/-- There is too little memory to go on. -/
def Turn.Starved (t : Turn) : Prop := ∃ m h, t = .go m h (.throw noMemory)

/-- Without a question to the host the machine comes to a turn that satisfies `P`, or its memory is
limited and there is too little of it. -/
def Turn.Reaches (limit : Nat) (P : Turn → Prop) (t : Turn) : Prop :=
  ∃ n t', Leads n t t' ∧ (P t' ∨ limit ≠ 0 ∧ t'.Starved)

variable {limit : Nat} {P : Turn → Prop} {m : Machine} {h : Heap}

namespace Turn

theorem Reaches.here {t : Turn} (ht : P t) : t.Reaches limit P := ⟨0, t, .refl t, .inl ht⟩

theorem Reaches.step {s : Signal} (ht : (m.step h s).Reaches limit P) :
    (Turn.go m h s).Reaches limit P := by
  obtain ⟨n, t', hleads, ht'⟩ := ht
  exact ⟨n + 1, t', .step hleads, ht'⟩

theorem Reaches.bind {t : Turn} {R : Turn → Prop} (ht : t.Reaches limit P)
    (hP : ∀ t', P t' → t'.Reaches limit R) : t.Reaches limit R := by
  obtain ⟨n, t', hleads, ht' | hstarved⟩ := ht
  · obtain ⟨k, t'', hleads', ht''⟩ := hP t' ht'
    exact ⟨k + n, t'', hleads.trans hleads', ht''⟩
  · exact ⟨n, t', hleads, .inr hstarved⟩

end Turn

theorem reaches_starved (hlimit : limit ≠ 0) (m : Machine) (h : Heap) :
    (Turn.go m h (.throw noMemory)).Reaches limit P :=
  ⟨0, _, .refl _, .inr ⟨hlimit, m, h, rfl⟩⟩

/-- What a statement asks for is carried out, unless there is too little memory. -/
theorem reaches_performWithin {e : Effect} (hlimit : h.limit = limit)
    (hgo : ∀ u, (m.perform { h with used := u } e).Reaches limit P) :
    (m.performWithin h e).Reaches limit P := by
  rw [Machine.performWithin]
  split
  case isFalse => exact hgo h.used
  case isTrue hover =>
    have hlimited : limit ≠ 0 := by
      rintro rfl
      simp [hlimit] at hover
    show Turn.Reaches _ P (if _ then _ else _)
    split
    case isTrue => exact reaches_starved hlimited m _
    case isFalse => exact hgo _

/-! ### Computations -/

/-- A computation hands on a result and a heap that satisfy `Q`, whatever is done with them. The
innermost function of `m` may be at any line, and calls change it. -/
def Action.Does {α : Type} (limit : Nat) (m : Nat → Machine) (x : Action α) (h : Heap)
    (Q : α → Heap → Prop) : Prop :=
  ∀ (P : Turn → Prop) (k : α → Heap → Heap × Signal),
    (∀ line a h', Q a h' → ((m line).tell (k a h')).Reaches limit P) →
      ∀ line, ((m line).tell (x k h)).Reaches limit P

namespace Action

variable {α β : Type} {m : Nat → Machine} {x : Action α} {Q : α → Heap → Prop}

theorem does_of_eq {a : α} {h' : Heap} (hx : ∀ k, x k h = k a h') (ha : Q a h') :
    x.Does limit m h Q := by
  intro P k hk line
  rw [hx]
  exact hk line a h' ha

theorem does_pure {a : α} (ha : Q a h) : (pure a : Action α).Does limit m h Q :=
  does_of_eq (pure_apply a · h) ha

theorem Does.bind {f : α → Action β} {R : β → Heap → Prop} (hx : x.Does limit m h Q)
    (hf : ∀ a h', Q a h' → (f a).Does limit m h' R) : (x >>= f).Does limit m h R :=
  fun P k hk line ↦ hx P (fun a h ↦ f a k h)
    (fun line a h' ha ↦ hf a h' ha P k hk line) line

/-- A computation begins with one that needs nothing but the heap. -/
theorem does_bind_of_eq {f : α → Action β} {R : β → Heap → Prop} {a : α} {h' : Heap}
    (hx : ∀ k, x k h = k a h') (hf : (f a).Does limit m h' R) : (x >>= f).Does limit m h R := by
  intro P k hk line
  rw [bind_apply, hx]
  exact hf P k hk line

theorem Does.mono {R : α → Heap → Prop} (hx : x.Does limit m h Q)
    (hQ : ∀ a h', Q a h' → R a h') : x.Does limit m h R :=
  fun P k hk line ↦ hx P k (fun line a h' ha ↦ hk line a h' (hQ a h' ha)) line

theorem Does.first {x : Action (List Value)} {R : Value → Heap → Prop}
    (hx : x.Does limit m h fun vs h' ↦ R (vs.headD .nil) h') :
    (first x).Does limit m h R :=
  hx.bind fun _ _ hvs ↦ does_pure hvs

/-- Asking for memory changes nothing but `used`. -/
theorem does_reserve {bytes : Nat} {f : Unit → Action β} {R : β → Heap → Prop}
    (hlimit : h.limit = limit) (hf : ∀ u, (f ()).Does limit m { h with used := u } R) :
    (reserve bytes >>= f).Does limit m h R := by
  intro P k hk line
  rw [bind_apply, reserve]
  split
  case isFalse => exact hf _ P k hk line
  case isTrue hover =>
    have hlimited : limit ≠ 0 := by
      rintro rfl
      simp [hlimit] at hover
    refine Turn.Reaches.step ?_
    show ((m line).tell (if _ then _ else _)).Reaches limit P
    split
    case isTrue => exact reaches_starved hlimited _ _
    case isFalse => exact hf _ P k hk line

/-- A look at a function that has not returned. -/
theorem does_viewOf {thread level : Nat} {Q : Option FrameView → Heap → Prop}
    (hQ : ∀ line, Q ((m line).view h thread level) h) :
    (Library.viewOf thread level).Does limit m h Q :=
  fun _ _ hk line ↦ Turn.Reaches.step (hk line _ h (hQ line))

end Action

/-! ### Calls -/

/-- The machine with a function on top of the stack, at a line. -/
def Machine.stacked (m : Machine) (f : Frame) (below : List Frame) (line : Nat) : Machine :=
  { m with frames := { f with line, pending := .none } :: below }

/-- A function that waits for another one. -/
def Frame.waiting (f : Frame) (line : Nat) (pending : Pending) : Frame :=
  { f with line, pending }

/-- A library function that a function calls. -/
def Frame.ofPrimitive (p : Primitive) (name : Option NameInUse) (caller : Frame) : Frame :=
  { function := .primitive p, activation := none, name, isTail := false, line := 0,
    pending := .none, depth := caller.depth, slots := caller.slots + Machine.librarySlots }

namespace Machine

variable {f : Frame} {below : List Frame} {p : Primitive} {args : List Value} {site : CallSite}
  {Q : List Value → Heap → Prop}

theorem exists_atLine_stacked (m : Machine) (f : Frame) (below : List Frame) (line line' : Nat)
    (pending : Pending) :
    ∃ l, ((m.stacked f below line).await pending).atLine line' =
      { m with frames := f.waiting l pending :: below } := by
  rw [atLine]
  split
  · exact ⟨line, rfl⟩
  · exact ⟨line', rfl⟩

theorem enter_primitive {f : Frame} (hslots : f.slots + librarySlots ≤ slotLimit)
    (args : List Value) (isTail : Bool) :
    enter { m with frames := f :: below } h (.primitive p) args site isTail f.depth =
      Machine.tell { m with frames := Frame.ofPrimitive p site.name f :: f :: below }
        (Library.runPrimitive p args (fun vs h ↦ (h, .answer vs)) h) := by
  have hlimit : calleeLimit = 199 + 1 := rfl
  have hroom : ¬slotLimit < slots { m with frames := f :: below } + librarySlots :=
    Nat.not_lt.2 hslots
  rw [enter, hlimit, callee]
  simp only [if_neg hroom]
  rfl

/-- A library function begins when a function of a script calls it. -/
theorem exists_step_call_primitive (h : Heap) (p : Primitive) (args : List Value)
    (hnests : ∀ line, (m.stacked f below line).nests site = false)
    (hslots : f.slots + librarySlots ≤ slotLimit) (k : List Value → Heap → Heap × Signal)
    (line : Nat) :
    ∃ l, (m.stacked f below line).step h (.call (.primitive p) args site k) =
      tell { m with frames := .ofPrimitive p site.name f :: f.waiting l (.values k) :: below }
        (Library.runPrimitive p args (fun vs h ↦ (h, .answer vs)) h) := by
  obtain ⟨l, hline⟩ := m.exists_atLine_stacked f below line site.line (.values k)
  refine ⟨l, ?_⟩
  show call _ h (.primitive p) args site ((m.stacked f below line).nests site) = _
  rw [hnests, call, hline, if_neg Bool.false_ne_true]
  show enter { m with frames := f.waiting l (.values k) :: below } h _ args site false
    (f.waiting l (.values k)).depth = _
  rw [enter_primitive (by exact hslots)]
  rfl

/-- What a library function does when a function of a script calls it is what it does on top of the
stack. -/
theorem does_call_primitive (hnests : ∀ line, (m.stacked f below line).nests site = false)
    (hslots : f.slots + librarySlots ≤ slotLimit)
    (hx : ∀ line pending, (Library.runPrimitive p args).Does limit
      (fun _ ↦ { m with
        frames := .ofPrimitive p site.name f :: f.waiting line pending :: below }) h Q) :
    (Action.call (.primitive p) args site).Does limit (m.stacked f below) h Q := by
  intro P k hk line
  obtain ⟨l, hstep⟩ := exists_step_call_primitive h p args hnests hslots k line
  refine Turn.Reaches.step ?_
  show ((m.stacked f below line).step h (.call (.primitive p) args site k)).Reaches limit P
  rw [hstep]
  refine hx l (.values k) P _ (fun _ vs h' hvs ↦ Turn.Reaches.step ?_) 0
  exact hk l vs h' hvs

/-- A function of a script returns what a library function in its place does. -/
theorem reaches_tailCall_primitive (hslots : f.slots + librarySlots ≤ slotLimit)
    (hx : ∀ line pending, (Library.runPrimitive p args).Does limit
      (fun _ ↦ { m with
        frames := .ofPrimitive p site.name f :: f.waiting line pending :: below }) h Q)
    (hgo : ∀ line vs h', Q vs h' →
      (Turn.go (m.stacked f below line) h' (.effect (.return vs))).Reaches limit P) (line : Nat) :
    (Turn.go (m.stacked f below line) h (.tailCall (.primitive p) args site)).Reaches limit P := by
  obtain ⟨l, hline⟩ := m.exists_atLine_stacked f below line site.line
    (.values fun vs h ↦ (h, .effect (.return vs)))
  refine Turn.Reaches.step ?_
  rw [step, tailCall, hline]
  show (enter { m with frames := f.waiting l _ :: below } h _ args site true
    (f.waiting l _).depth).Reaches limit P
  rw [enter_primitive (by exact hslots)]
  refine hx l _ P _ (fun _ vs h' hvs ↦ Turn.Reaches.step ?_) 0
  exact hgo l vs h' hvs

end Machine

/-! ### Functions of scripts -/

/-- A function of a script in a machine, on top of the functions `below`. -/
structure Running where
  machine : Machine
  frame : Frame
  activation : Activation
  below : List Frame

namespace Running

variable {r : Running} {scope outer : Scope} {control : List Control} {s : Statement}
  {rest : List Statement} {body : Block} {condition : Expr} {e : Effect}
  {Q : Effect → Heap → Prop}

/-- What surrounds the expressions of the function. -/
def context (r : Running) (scope : Scope) : Context :=
  ⟨scope, r.activation.captured, r.activation.varargs, r.activation.info.source⟩

/-- The function, with what is in scope and what is still to be finished. -/
def frameAt (r : Running) (scope : Scope) (control : List Control) : Frame :=
  { r.frame with activation := some { r.activation with scope, control } }

/-- The machine with the function on top. -/
def machineAt (r : Running) (scope : Scope) (control : List Control) : Nat → Machine :=
  r.machine.stacked (r.frameAt scope control) r.below

/-- Behind a statement with the effect `e` the function comes to a turn that satisfies `P`. -/
def Reaches (r : Running) (limit : Nat) (P : Turn → Prop) (scope : Scope) (control : List Control)
    (e : Effect) (h : Heap) : Prop :=
  h.limit = limit ∧
    ∀ line u, ((r.machineAt scope control line).perform { h with used := u } e).Reaches limit P

theorem Reaches.go (hr : r.Reaches limit P scope control e h) (line : Nat) :
    (Turn.go (r.machineAt scope control line) h (.effect e)).Reaches limit P :=
  .step (reaches_performWithin hr.1 (hr.2 line))

/-- What is known of a computation decides what is reached. -/
theorem reaches_of_does {x : Action Effect}
    (hx : x.Does limit (r.machineAt scope control) h (r.Reaches limit P scope control))
    (line : Nat) :
    ((r.machineAt scope control line).tell (x (fun e h ↦ (h, .effect e)) h)).Reaches limit P :=
  hx P (fun e h ↦ (h, .effect e)) (fun line _ _ he ↦ he.go line) line

/-- The next statement of a block. -/
theorem reaches_next (hlimit : h.limit = limit)
    (hs : ∀ u, (Action.exec (r.context scope) s).Does limit
      (r.machineAt scope (.block rest body outer [] :: control)) { h with used := u }
      (r.Reaches limit P scope (.block rest body outer [] :: control))) :
    r.Reaches limit P scope (.block (s :: rest) body outer [] :: control) .next h :=
  ⟨hlimit, fun line u ↦ reaches_of_does (hs u) line⟩

/-- The end of a block. -/
theorem reaches_blockEnd (hgo : ∀ u, r.Reaches limit P outer control .next { h with used := u }) :
    r.Reaches limit P scope (.block [] body outer [] :: control) .next h :=
  ⟨(hgo 0).1, fun line u ↦ (hgo u).go line⟩

theorem reaches_declare {vars : List (Name × Nat)}
    (hgo : r.Reaches limit P (vars.reverse ++ scope) control .next h) :
    r.Reaches limit P scope control (.declare vars) h :=
  hgo

theorem reaches_enter
    (hgo : r.Reaches limit P scope (.block body.statements body scope [] :: control) .next h) :
    r.Reaches limit P scope control (.enter body) h :=
  hgo

theorem reaches_loopWhile
    (hgo : r.Reaches limit P scope (.whileLoop condition body :: control) .next h) :
    r.Reaches limit P scope control (.loopWhile condition body) h :=
  hgo

/-- A loop goes on as its condition says. -/
theorem reaches_whileLoop (hlimit : h.limit = limit)
    (htest : ∀ u, (Action.first (Action.eval (r.context scope) condition)).Does limit
      (r.machineAt scope (.whileLoop condition body :: control)) { h with used := u }
      fun v h' ↦ r.Reaches limit P scope (.whileLoop condition body :: control)
        (if v.isTruthy then .enter body else .leaveLoop) h') :
    r.Reaches limit P scope (.whileLoop condition body :: control) .next h :=
  ⟨hlimit, fun line u ↦
    reaches_of_does ((htest u).bind fun _ _ hv ↦ Action.does_pure hv) line⟩

/-- Leaving a loop leaves the blocks in it first. -/
theorem reaches_leaveLoop_block
    (hgo : ∀ u, r.Reaches limit P outer control .leaveLoop { h with used := u }) :
    r.Reaches limit P scope (.block rest body outer [] :: control) .leaveLoop h :=
  ⟨(hgo 0).1, fun line u ↦ (hgo u).go line⟩

theorem reaches_leaveLoop
    (hgo : ∀ u, r.Reaches limit P scope control .next { h with used := u }) :
    r.Reaches limit P scope (.whileLoop condition body :: control) .leaveLoop h :=
  ⟨(hgo 0).1, fun line u ↦ (hgo u).go line⟩

/-- A function without variables to close returns to the one below. -/
theorem reaches_return {vs : List Value} (hclosing : Activation.nextClosing control = none)
    (hlimit : h.limit = limit)
    (hgo : ∀ u, (Machine.deliver { r.machine with frames := r.below }
      { h with used := u } vs).Reaches limit P) :
    r.Reaches limit P scope control (.return vs) h := by
  refine ⟨hlimit, fun line u ↦ ?_⟩
  have hperform : Machine.perform (r.machineAt scope control line) { h with used := u }
      (.return vs) = Machine.deliver { r.machine with frames := r.below }
        { h with used := u } vs := by
    simp only [Machine.perform, machineAt, Machine.stacked, frameAt, Activation.apply,
      Activation.return, hclosing]
  rw [hperform]
  exact hgo u

/-- The next statement of a block returns what a library function answers. -/
theorem reaches_next_tailCall {p : Primitive} {args : List Value} {site : CallSite}
    {R : List Value → Heap → Prop} (hlimit : h.limit = limit)
    (hslots : r.frame.slots + Machine.librarySlots ≤ Machine.slotLimit)
    (hs : ∀ u k, Action.exec (r.context scope) s k { h with used := u } =
      ({ h with used := u }, .tailCall (.primitive p) args site))
    (hx : ∀ u m, (Library.runPrimitive p args).Does limit m { h with used := u } R)
    (hgo : ∀ vs h', R vs h' →
      r.Reaches limit P scope (.block rest body outer [] :: control) (.return vs) h') :
    r.Reaches limit P scope (.block (s :: rest) body outer [] :: control) .next h := by
  refine ⟨hlimit, fun line u ↦ ?_⟩
  show ((r.machineAt scope _ line).tell (Action.exec (r.context scope) s _ _)).Reaches limit P
  rw [hs]
  exact Machine.reaches_tailCall_primitive
    (f := r.frameAt scope (.block rest body outer [] :: control)) hslots (fun _ _ ↦ hx u _)
    (fun line vs h' hvs ↦ (hgo vs h' hvs).go line) line

/-- A function of a script that begins on top of the functions `below`. -/
def begun (m : Machine) (below : List Frame) (function : Value) (body : FunctionBody)
    (captured : Array Nat) (args : List Value) (name : Option NameInUse) (isTail : Bool)
    (depth slots : Nat) : Running where
  machine := m
  frame :=
    { function, activation := none, name, isTail, line := body.info.lineDefined, pending := .none,
      depth, slots }
  activation :=
    { info := body.info, captured, scope := [], control := []
      varargs := if body.info.isVararg then args.drop body.info.params.length else [] }
  below

end Running

/-! ### Calls of functions of scripts -/

namespace Machine

variable {f : Frame} {below : List Frame} {args : List Value} {site : CallSite} {a : Nat}
  {body : FunctionBody} {captured : Array Nat}

/-- How deeply a call nests that a function makes. -/
def calleeDepth (f : Frame) (nested : Bool) : Nat := if nested then f.depth + 1 else f.depth

theorem beginScript_eq (m : Machine) (h : Heap) (below : List Frame) (function : Value)
    (body : FunctionBody) (captured : Array Nat) (args : List Value) (name : Option NameInUse)
    (isTail : Bool) (depth slots : Nat) :
    beginScript { m with frames := below } h function body captured args name isTail depth slots =
      .go ((Running.begun m below function body captured args name isTail depth slots).machineAt
          (body.info.params.zipIdx h.cells.size).reverse
          [.block body.block.statements body.block [] []] body.info.lineDefined)
        (h.withCells (Action.adjust body.info.params.length args).toArray) (.effect .next) := by
  rw [beginScript, bindParams_eq, List.append_nil]
  rfl

/-- The functions that are on the stack below a function when it is called. -/
def framesBelow (m : Machine) (isTail : Bool) : List Frame :=
  if isTail then m.frames.drop 1 else m.frames

/-- A function of a script begins, whoever calls it. -/
theorem enter_of_script (hfun : h.function? a = some (.script body captured))
    (hslots : m.slots + (body.info.frameSize + args.length) ≤ slotLimit) (site : CallSite)
    (isTail : Bool) (depth : Nat) :
    m.enter h (.function a) args site isTail depth =
      .go ((Running.begun m (m.framesBelow isTail) (.function a) body captured args
          (if isTail then none else site.name) isTail depth
          (slots { m with frames := m.framesBelow isTail } +
            (body.info.frameSize + args.length))).machineAt
              (body.info.params.zipIdx h.cells.size).reverse
              [.block body.block.statements body.block [] []] body.info.lineDefined)
        (h.withCells (Action.adjust body.info.params.length args).toArray) (.effect .next) := by
  have hlimit : calleeLimit = 199 + 1 := rfl
  rw [enter, hlimit, callee, hfun]
  simp only [if_neg (Nat.not_lt.2 hslots)]
  cases isTail <;> exact beginScript_eq ..

/-- A function of a script takes the place of the one that calls it last. -/
theorem step_tailCall_script (hfun : h.function? a = some (.script body captured))
    (hslots : f.slots + (body.info.frameSize + args.length) ≤ slotLimit) (line : Nat) :
    (m.stacked f below line).step h (.tailCall (.function a) args site) =
      .go ((Running.begun m below (.function a) body captured args none true f.depth
          (slots { m with frames := below } + (body.info.frameSize + args.length))).machineAt
            (body.info.params.zipIdx h.cells.size).reverse
            [.block body.block.statements body.block [] []] body.info.lineDefined)
        (h.withCells (Action.adjust body.info.params.length args).toArray) (.effect .next) := by
  obtain ⟨l, hline⟩ := m.exists_atLine_stacked f below line site.line
    (.values fun vs h ↦ (h, .effect (.return vs)))
  rw [step, tailCall, hline]
  exact enter_of_script (m := { m with
    frames := f.waiting l (.values fun vs h ↦ (h, .effect (.return vs))) :: below }) hfun hslots
      site true f.depth

/-- A function of a script begins when it is called. -/
theorem exists_step_call_script {nested : Bool}
    (hfun : h.function? a = some (.script body captured))
    (hnests : ∀ line, (m.stacked f below line).nests site = nested)
    (hdepth : f.depth + 1 < depthLimit)
    (hslots : f.slots + (body.info.frameSize + args.length) ≤ slotLimit)
    (k : List Value → Heap → Heap × Signal) (line : Nat) :
    ∃ l, (m.stacked f below line).step h (.call (.function a) args site k) =
      .go ((Running.begun m (f.waiting l (.values k) :: below) (.function a) body captured args
          site.name false (calleeDepth f nested)
          (f.slots + (body.info.frameSize + args.length))).machineAt
            (body.info.params.zipIdx h.cells.size).reverse
            [.block body.block.statements body.block [] []] body.info.lineDefined)
        (h.withCells (Action.adjust body.info.params.length args).toArray) (.effect .next) := by
  obtain ⟨l, hline⟩ := m.exists_atLine_stacked f below line site.line (.values k)
  refine ⟨l, ?_⟩
  show call _ h (.function a) args site ((m.stacked f below line).nests site) = _
  rw [hnests, call, hline]
  cases nested with
  | false =>
    rw [if_neg Bool.false_ne_true]
    exact enter_of_script hfun (by exact hslots) site false f.depth
  | true =>
    have hlimit : depthLimit = 200 := rfl
    have hhandler : handlerLimit = 220 := rfl
    have hdeep : depth { m with frames := f.waiting l (.values k) :: below } = f.depth := rfl
    rw [if_pos rfl, hdeep]
    simp only
    rw [if_neg (by omega), if_neg (by omega), enter_of_script hfun (by exact hslots)]
    rfl

/-- A function of a script hands its values to the function that called it. -/
theorem does_call_script {Q : List Value → Heap → Prop} {nested : Bool}
    (hfun : h.function? a = some (.script body captured))
    (hnests : ∀ line, (m.stacked f below line).nests site = nested)
    (hdepth : f.depth + 1 < depthLimit)
    (hslots : f.slots + (body.info.frameSize + args.length) ≤ slotLimit)
    (hbody : ∀ (P : Turn → Prop) line pending,
      (∀ vs h', Q vs h' → (deliver { m with
        frames := f.waiting line pending :: below } h' vs).Reaches limit P) →
      (Running.begun m (f.waiting line pending :: below) (.function a) body captured args site.name
        false (calleeDepth f nested) (f.slots + (body.info.frameSize + args.length))).Reaches limit
          P (body.info.params.zipIdx h.cells.size).reverse
          [.block body.block.statements body.block [] []] .next
          (h.withCells (Action.adjust body.info.params.length args).toArray)) :
    (Action.call (.function a) args site).Does limit (m.stacked f below) h Q := by
  intro P k hk line
  obtain ⟨l, hstep⟩ := exists_step_call_script hfun hnests hdepth hslots k line
  refine Turn.Reaches.step ?_
  show ((m.stacked f below line).step h (.call (.function a) args site k)).Reaches limit P
  rw [hstep]
  exact (hbody P l (.values k) fun vs h' hvs ↦ hk l vs h' hvs).go _

end Machine

end MacroStream.Script
