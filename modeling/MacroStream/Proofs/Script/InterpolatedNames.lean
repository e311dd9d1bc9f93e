import MacroStream.Proofs.Script.InterpolationInstalled

/-!
# Names in interpolated strings

The function `f` gives its string to `gsub`, with a new function that replaces pieces, and that one
calls the expression in a piece. A name in the expression is looked up on the stack, from a fixed
level on. What is found there depends on who is on the stack:

* The expression itself is three functions above those that `f` was called on top of. It reads names
  from these, and not from the three.
* A function that the expression calls is on top of the expression, too. Each such function uncovers
  one of the three: first `f` with its variable `str`, and later the function that replaces pieces.
* A function that calls `f` at its very end is not on the stack any more, and its variables are not
  found. An expression is such a function if it is nothing but a call of `f`.

So a name is the variable of the function that called `f` only as long as `f` is not called at the
end, and the expression itself reads the name.
-/

namespace MacroStream.Script

open Interpolation

variable {h : Heap} {m : Machine} {below : List Frame} {a g : Nat} {P : Turn → Prop}

/-! ### The functions for interpolation -/

/-- A function replaces pieces; for global variables it looks into the table `g`. -/
def Heap.Replaces (h : Heap) (a g : Nat) : Prop :=
  ∃ captured, h.function? a = some (.script replace captured) ∧ h.CanReplace captured g

/-- The function that replaces pieces comes to the expression in a piece. -/
theorem reaches_of_piece {going : Frame} {code : ByteArray} {body : FunctionBody} {site : CallSite}
    (hr : h.Replaces a g) (hlibrary : going.activation = none)
    (hdepth : going.depth + 2 < Machine.depthLimit)
    (hslots : going.slots + 30 ≤ Machine.slotLimit)
    (hroom : going.slots + 10 + body.info.frameSize ≤ Machine.slotLimit)
    (hparse : Parser.parse (Token.beforeZero (chunkName code)) (going.depth + 1)
      ("return ".toUTF8 ++ code) = .ok body)
    (hP : ∀ (t : Turn) (replacing : Frame) (line : Nat) (pending : Pending) (e : Nat),
      replacing.localNames = replacementNames → replacing.function = .function a →
        t.BeginsExpression m (replacing :: going.waiting line pending :: below) body e g → P t)
    (line : Nat) (k : List Value → Heap → Heap × Signal) :
    (Turn.go (m.stacked going below line) h
      (.call (.function a) [.str (Pattern.inBraces code)] site k)).Reaches h.limit P := by
  obtain ⟨captured, hfun, hreplace⟩ := hr
  have hnests (line : Nat) : (m.stacked going below line).nests site = true := by
    simp [Machine.nests, Machine.stacked, hlibrary]
  have hsize : replace.info.frameSize + [Value.str (Pattern.inBraces code)].length = 10 := rfl
  have hroom' : going.slots + (replace.info.frameSize +
      [Value.str (Pattern.inBraces code)].length) ≤ Machine.slotLimit := by omega
  obtain ⟨l, hstep⟩ := Machine.exists_step_call_script hfun hnests (by omega) hroom' k line
  refine Turn.Reaches.step ?_
  rw [hstep]
  let r : Running := .begun m (going.waiting l (.values k) :: below) (.function a) replace captured
    [.str (Pattern.inBraces code)] site.name false (going.depth + 1) (going.slots + 10)
  have hbegun : h.Extends (h.withCells #[.str (Pattern.inBraces code)]) := .withCells _ _
  have hpiece : (h.withCells #[.str (Pattern.inBraces code)]).Holds h.cells.size
      (.str (Pattern.inBraces code)) :=
    Heap.holds_withCells h [.str (Pattern.inBraces code)] (i := 0) rfl
  have hreaches : r.Reaches h.limit P [("block".toUTF8, h.cells.size)]
      [.block replace.block.statements replace.block [] []] .next
      (h.withCells #[.str (Pattern.inBraces code)]) :=
    Running.reaches_expression rfl (hreplace.mono hbegun) (by exact hdepth)
      (by show going.slots + 10 + 20 ≤ _; omega) hroom hpiece hparse
      fun t replacing e hnames hfunction ht ↦ hP t replacing l (.values k) e hnames hfunction ht
  exact hreaches.go _

/-- The string is given to `gsub`, with a new function that replaces pieces. Of what comes of that
only the first value is returned. -/
theorem exec_goThrough {r : Running} {s : ByteArray} {b : Nat}
    (hgsub : h.HasMethod "gsub".toUTF8 (.string .gsub)) (hb : h.Holds b (.str s))
    (k : Effect → Heap → Heap × Signal) :
    Action.exec (r.context [("str".toUTF8, b)]) goThrough k h =
      ((h.newFunction (.script replace (replace.info.captures.map fun p ↦
          (r.context [("str".toUTF8, b)]).captureAddress p.2).toArray)).2,
        .call (.primitive (.string .gsub))
          [.str s, .str Pattern.braces, .function h.functions.size]
          ⟨11, some ("method", "gsub".toUTF8)⟩ fun vs ↦ k (.return [vs.headD .nil])) := by
  rw [goThrough, Action.exec, evalList_singleton, Action.eval, Action.eval]
  have hcell : h.cell ((r.context [("str".toUTF8, b)]).address 0) = .str s := hb.2
  simp only [Action.bind_apply, Action.first_apply, Action.evalList, Action.eval, Action.pure_apply,
    Action.read_apply, hcell, List.headD_cons, index_of_hasMethod hgsub]
  rfl

/-- A function that is on top of the functions `below`, and finds its global variables in the table
`e`, reads a name that is not in that table as the variable that is visible from the functions
`searched`, or else as the global variable. -/
def ReadsFrom (e g : Nat) (below searched : List Frame) : Prop :=
  ∀ (r : Running) (scope : Scope) (control : List Control) (h : Heap) (x : Name) (i line : Nat),
    r.below = below → r.frame.depth + 1 < Machine.depthLimit →
    r.frame.slots + 33 ≤ Machine.slotLimit → below.length + 4 < 2 ^ 63 →
    (∀ f ∈ searched, f.Sound h) → h.Holds (r.activation.captured.getD i 0) (.table e) →
    h.LooksUp e g → h.rawGet e (.str x) = .nil →
      (Action.eval (r.context scope) (.index (.captured "_ENV".toUTF8 i) (.str x) line)).Does
        h.limit (r.machineAt scope control) h fun vs h' ↦ h.Extends h' ∧
          vs = [(h.visible? x searched).getD (h.rawGet g (.str x))]

/-- The search leaves out three functions below the one that reads. -/
theorem readsFrom_drop (e g : Nat) (below : List Frame) : ReadsFrom e g below (below.drop 3) := by
  rintro r scope control h x i line rfl hdepth hslots hlength hsound hcell hlooks hx
  have hobject (k : Value → Heap → Heap × Signal) : Action.first (Action.eval (r.context scope)
      (.captured "_ENV".toUTF8 i)) k h = k (.table e) h := by
    rw [← hcell.2, Action.eval]
    rfl
  have hkey (k : Value → Heap → Heap × Signal) : Action.first (Action.eval (r.context scope)
      (.str x)) k h = k (.str x) h := by
    rw [Action.eval]
    rfl
  rw [Action.eval]
  refine Action.does_bind_of_eq hobject (Action.does_bind_of_eq hkey ?_)
  have hdepth' : (r.frameAt scope control).depth + 1 < Machine.depthLimit := hdepth
  refine Action.Does.bind (does_index_of_looksUp (m := r.machine) hlooks hx hdepth' hslots hlength
    hsound _ _) fun v h' hv ↦ Action.does_pure ⟨hv.1, by rw [hv.2]⟩

theorem Heap.CanReplace.captures {r : Running} (hreplace : h.CanReplace r.activation.captured g)
    (scope : Scope) : h.CanReplace (replace.info.captures.map fun p ↦
      (r.context scope).captureAddress p.2).toArray g :=
  ⟨hreplace.setmetatable, hreplace.level, hreplace.getinfo, hreplace.getlocal, hreplace.rawget,
    hreplace.globals, hreplace.load, hreplace.globals_lt, hreplace.sub⟩

/-- `f` waits for what `gsub` makes of its string, and returns the first value of that. -/
def Running.waitingForText (r : Running) (b line : Nat) : Frame :=
  (r.frameAt [("str".toUTF8, b)] [.block [] interpolate.block [] []]).waiting line
    (.values fun vs h ↦ (h, .effect (.return [vs.headD .nil])))

/-- `f` gives its string to `gsub`. -/
theorem Running.reaches_gsub {r : Running} {s : ByteArray} {b : Nat}
    (hgsub : h.HasMethod "gsub".toUTF8 (.string .gsub))
    (hslots : r.frame.slots + Machine.librarySlots ≤ Machine.slotLimit) (hb : h.Holds b (.str s))
    (hP : ∀ (line a : Nat) (name : Option NameInUse) (h' : Heap), h.Extends h' →
      h'.function? a = some (.script replace (replace.info.captures.map fun p ↦
        (r.context [("str".toUTF8, b)]).captureAddress p.2).toArray) →
      P (((r.machine.stacked (.ofPrimitive (.string .gsub) name (r.waitingForText b line))
        (r.waitingForText b line :: r.below) 0).tell (Library.runPrimitive (.string .gsub)
          [.str s, .str Pattern.braces, .function a] (fun vs h ↦ (h, .answer vs)) h')))) :
    r.Reaches h.limit P [("str".toUTF8, b)]
      [.block interpolate.block.statements interpolate.block [] []] .next h := by
  refine ⟨rfl, fun line u ↦ ?_⟩
  have hused := Heap.Extends.used h u
  let control : List Control := [.block [] interpolate.block [] []]
  have hexec := exec_goThrough (r := r) (hgsub.mono hused) (hused.cells hb)
    (fun effect h ↦ (h, .effect effect))
  show (Machine.tell (r.machineAt [("str".toUTF8, b)] control line)
    (Action.exec (r.context [("str".toUTF8, b)]) goThrough
      (fun effect h ↦ (h, .effect effect)) { h with used := u })).Reaches h.limit P
  rw [hexec]
  refine Turn.Reaches.step ?_
  obtain ⟨captured, hcaptured⟩ : ∃ captured : Array Nat, captured = (replace.info.captures.map
    fun p ↦ (r.context [("str".toUTF8, b)]).captureAddress p.2).toArray := ⟨_, rfl⟩
  rw [← hcaptured]
  have hnew := hused.trans
    (Heap.Extends.newFunction { h with used := u } (.script replace captured))
  let frame : Frame := r.frameAt [("str".toUTF8, b)] control
  have hnests (line : Nat) : (r.machine.stacked frame r.below line).nests
      ⟨11, some ("method", "gsub".toUTF8)⟩ = false := rfl
  obtain ⟨l, hstep⟩ := Machine.exists_step_call_primitive
    (Heap.newFunction (.script replace captured) { h with used := u }).2 (.string .gsub)
    [.str s, .str Pattern.braces, .function h.functions.size] hnests hslots
    (fun vs h ↦ (h, .effect (.return [vs.headD .nil]))) line
  show ((r.machine.stacked frame r.below line).step
    (Heap.newFunction (.script replace captured) { h with used := u }).2 _).Reaches h.limit P
  rw [hstep]
  have hfun : ((Heap.newFunction (.script replace captured) { h with used := u }).2).function?
      h.functions.size = some (.script replace captured) := Array.getElem?_push_size
  exact Turn.Reaches.here (hP l h.functions.size (some ("method", "gsub".toUTF8)) _ hnew
    (hcaptured ▸ hfun))

/-- `f` goes through its string with `gsub`. -/
theorem Running.reaches_goesThrough {r : Running} {s : ByteArray} {b : Nat}
    (hreplace : h.CanReplace r.activation.captured g)
    (hgsub : h.HasMethod "gsub".toUTF8 (.string .gsub))
    (hslots : r.frame.slots + Machine.librarySlots ≤ Machine.slotLimit)
    (hs : s.size + 1 < 2 ^ 63) (hb : h.Holds b (.str s))
    (hP : ∀ (t : Turn) (helper : Frame) (name : Option NameInUse) (a : Nat) (h' : Heap),
      helper.view.locals = [("str".toUTF8, b)] → helper.function = r.frame.function →
      helper.depth = r.frame.depth → helper.slots = r.frame.slots → h.Extends h' →
      h'.Replaces a g → t.GoesThrough r.machine (.ofPrimitive (.string .gsub) name helper)
        (helper :: r.below) s a 0 h' → P t) :
    r.Reaches h.limit P [("str".toUTF8, b)]
      [.block interpolate.block.statements interpolate.block [] []] .next h :=
  Running.reaches_gsub hgsub hslots hb fun line a name h' hnew hfun ↦
    hP _ (r.waitingForText b line) name a h' rfl rfl rfl rfl hnew
      ⟨_, hfun, (hreplace.captures _).mono hnew⟩ (goesThrough_gsub r.machine _ _ 0 a h' hs _)

/-- Wherever `going` is in the string, the expression in the next piece is evaluated, if it can be
read. It is on top of three functions, and these are on top of the functions `below`. It and the
functions that it calls read a name from all but the three functions that are right below them. -/
def EvaluatesPieces (m : Machine) (going helper : Frame) (below : List Frame) (s : ByteArray)
    (a g : Nat) : Prop :=
  ∀ (before code rest : ByteArray) (body : FunctionBody) (i : Nat) (h : Heap) (t : Turn),
    s = before ++ Pattern.inBraces code ++ rest → Pattern.IsInside code → i ≤ before.size →
    (∀ j, i ≤ j → j < before.size → byteAt s j ≠ 123) →
    Parser.parse (Token.beforeZero (chunkName code)) (going.depth + 1)
      ("return ".toUTF8 ++ code) = .ok body →
    going.slots + 10 + body.info.frameSize ≤ Machine.slotLimit →
    h.Replaces a g → t.GoesThrough m going (helper :: below) s a i h →
      t.Reaches h.limit fun t' ↦ ∃ (replacing going' : Frame) (e : Nat),
        replacing.localNames = replacementNames ∧ replacing.function.isNil = false ∧
        t'.BeginsExpression m (replacing :: going' :: helper :: below) body e g ∧
        ∀ inner, ReadsFrom e g (inner ++ replacing :: going' :: helper :: below)
          ((inner ++ replacing :: going' :: helper :: below).drop 3)

theorem evaluatesPieces {going helper : Frame} {s : ByteArray} (hlibrary : going.activation = none)
    (hdepth : going.depth + 2 < Machine.depthLimit)
    (hslots : going.slots + 30 ≤ Machine.slotLimit) :
    EvaluatesPieces m going helper below s a g := by
  intro before code rest body i h t hs hcode hi hbefore hparse hroom hr ht
  have hsize : before.size ≤ s.size := by
    rw [hs, ByteArray.size_append, ByteArray.size_append]
    omega
  obtain ⟨line, k, rfl⟩ := (ht.skip hi hsize hbefore).exists_call hcode hs
  exact reaches_of_piece hr hlibrary hdepth hslots hroom hparse
    (fun t replacing line pending e hnames hfunction ht ↦ ⟨replacing, going.waiting line pending, e,
      hnames, by rw [hfunction]; rfl, ht, fun inner ↦ readsFrom_drop e g _⟩) line k

/-- A string is interpolated by a function that is on top of the functions `below`. -/
def Turn.Interpolates (m : Machine) (below : List Frame) (depth : Nat) (s : ByteArray) (g : Nat)
    (t : Turn) : Prop :=
  ∃ (helper going : Frame) (b a : Nat) (h : Heap),
    helper.view.locals = [("str".toUTF8, b)] ∧ helper.function.isNil = false ∧
    h.Holds b (.str s) ∧ going.depth = depth ∧
    going.slots = Machine.slots { m with frames := below } + 25 ∧ h.Replaces a g ∧
    t.GoesThrough m going (helper :: below) s a 0 h ∧ EvaluatesPieces m going helper below s a g

/-- `f` interpolates the string that it is called with. -/
theorem reaches_interpolates {captured : Array Nat} {s : ByteArray} {name : Option NameInUse}
    {isTail : Bool} {depth : Nat} (hreplace : h.CanReplace captured g)
    (hgsub : h.HasMethod "gsub".toUTF8 (.string .gsub)) (hs : s.size + 1 < 2 ^ 63)
    (hdepth : depth + 2 < Machine.depthLimit)
    (hslots : Machine.slots { m with frames := below } + 55 ≤ Machine.slotLimit) :
    (Turn.go ((Running.begun m below (.function a) interpolate captured [.str s] name isTail depth
        (Machine.slots { m with frames := below } + 5)).machineAt [("str".toUTF8, h.cells.size)]
          [.block interpolate.block.statements interpolate.block [] []]
            interpolate.info.lineDefined) (h.withCells #[.str s]) (.effect .next)).Reaches h.limit
        fun t ↦ t.Interpolates m below depth s g := by
  let r : Running := .begun m below (.function a) interpolate captured [.str s] name isTail depth
    (Machine.slots { m with frames := below } + 5)
  have hbegun : h.Extends (h.withCells #[.str s]) := .withCells _ _
  have hstring : (h.withCells #[.str s]).Holds h.cells.size (.str s) :=
    Heap.holds_withCells h [.str s] (i := 0) rfl
  have hlibrary : Machine.librarySlots = 20 := rfl
  have hroom : r.frame.slots + Machine.librarySlots ≤ Machine.slotLimit := by
    show Machine.slots { m with frames := below } + 5 + _ ≤ _
    omega
  have hreaches : r.Reaches h.limit (fun t ↦ t.Interpolates m below depth s g)
      [("str".toUTF8, h.cells.size)]
      [.block interpolate.block.statements interpolate.block [] []] .next
      (h.withCells #[.str s]) := by
    refine Running.reaches_goesThrough (hreplace.mono hbegun) (hgsub.mono hbegun) hroom hs hstring
      fun t helper name a h' hlocals hfunction hdepth' hslots' hold hr ht ↦ ?_
    have hslots'' : helper.slots = Machine.slots { m with frames := below } + 5 := hslots'
    have hdepth'' : helper.depth = depth := hdepth'
    have hgoing : (Frame.ofPrimitive (.string .gsub) name helper).slots =
        Machine.slots { m with frames := below } + 25 := by
      show helper.slots + 20 = _
      omega
    have hscript : helper.function.isNil = false := by
      rw [hfunction]
      rfl
    refine ⟨helper, .ofPrimitive (.string .gsub) name helper, _, a, h', hlocals, hscript,
      hold.cells hstring, hdepth', hgoing, hr, ht, evaluatesPieces rfl ?_ ?_⟩
    · show helper.depth + 2 < _
      omega
    · omega
  exact hreaches.go _

/-- **Names in interpolated strings.** A function of a script calls `f`. Then the string is
interpolated on top of the function that calls and those that called it, or only on top of the
latter if the call is a tail call. The expression in a piece reads its names from these functions,
and a function that the expression calls begins its search earlier: with `f` itself, or with what
`f` has called. -/
theorem interpolates_of_call {caller : Frame} {callers : List Frame} {s : ByteArray}
    {site : CallSite} (tail : Bool) (hf : h.Interpolates a g) (hs : s.size + 1 < 2 ^ 63)
    (hnests : ∀ line, (m.stacked caller callers line).nests site = false)
    (hdepth : caller.depth + 2 < Machine.depthLimit)
    (hslots : ∀ f ∈ caller :: callers, f.slots + 55 ≤ Machine.slotLimit)
    (line : Nat) (k : List Value → Heap → Heap × Signal) :
    (Turn.go (m.stacked caller callers line) h (if tail then .tailCall (.function a) [.str s] site
      else .call (.function a) [.str s] site k)).Reaches h.limit fun t ↦
        ∃ line, t.Interpolates m
          (if tail then callers else caller.waiting line (.values k) :: callers)
          caller.depth s g := by
  obtain ⟨captured, hfun, hreplace, hgsub⟩ := hf
  have hcaller := hslots caller List.mem_cons_self
  have hroom : caller.slots + (interpolate.info.frameSize + [Value.str s].length) ≤
      Machine.slotLimit := by
    show caller.slots + 5 ≤ _
    omega
  refine Turn.Reaches.step ?_
  cases tail with
  | false =>
    have hdepth' : caller.depth + 1 < Machine.depthLimit := by omega
    obtain ⟨l, hstep⟩ := Machine.exists_step_call_script hfun hnests hdepth' hroom k line
    simp only [Bool.false_eq_true, if_false]
    rw [hstep]
    refine (reaches_interpolates hreplace hgsub hs hdepth (by exact hcaller)).bind
      fun t ht ↦ .here ⟨l, ht⟩
  | true =>
    simp only [if_true]
    rw [Machine.step_tailCall_script hfun hroom]
    have hbelow : Machine.slots { m with frames := callers } + 55 ≤ Machine.slotLimit := by
      cases callers with
      | nil => exact Nat.le_trans (Nat.le_add_left ..) hcaller
      | cons f callers => exact hslots f (List.mem_cons_of_mem _ List.mem_cons_self)
    exact (reaches_interpolates hreplace hgsub hs hdepth hbelow).bind fun t ht ↦ .here ⟨0, ht⟩

/-- In a new interpreter with the default configuration, a function with a variable `x` answers with
a tail call of `f`. The names in the string are not read from that function. -/
theorem interpolates_of_tailCall_new :
    ∃ (i : Interpreter) (a : Nat) (caller : Frame),
      Interpreter.ofConfig (fun _ ↦ none) {} = some (.ok i) ∧
      i.heap.rawGet i.globals (textKey "f") = .function a ∧
      caller.localNames = ["x".toUTF8] ∧ caller.function.isNil = false ∧
      i.heap.Interpolates a i.globals ∧ "\x7bx\x7d".toUTF8.size + 1 < 2 ^ 63 ∧
      (∀ line, (i.machine.stacked caller [] line).nests {} = false) ∧
      caller.depth + 2 < Machine.depthLimit ∧
      (∀ f ∈ [caller], f.slots + 55 ≤ Machine.slotLimit) ∧
      (Turn.go (i.machine.stacked caller [] 0) i.heap
        (.tailCall (.function a) [.str "\x7bx\x7d".toUTF8] {})).Reaches i.heap.limit fun t ↦
          t.Interpolates i.machine [] 0 "\x7bx\x7d".toUTF8 i.globals := by
  obtain ⟨i, a, hconfig, hglobal, hf⟩ := Interpreter.exists_ofConfig_interpolates (fun _ ↦ none) {}
  let caller : Frame := (Running.begun i.machine [] (.function 0) interpolate #[] [] none false 0
    0).frameAt [("x".toUTF8, 0)] []
  have hdepth : caller.depth + 2 < Machine.depthLimit := Nat.le_of_ble_eq_true rfl
  have hslots : ∀ f ∈ [caller], f.slots + 55 ≤ Machine.slotLimit := by
    intro f hmem
    rw [List.mem_singleton.1 hmem]
    exact Nat.le_of_ble_eq_true rfl
  have hsize : "\x7bx\x7d".toUTF8.size + 1 < 2 ^ 63 := by decide
  have hnests (line : Nat) : (i.machine.stacked caller [] line).nests {} = false := rfl
  have hreaches := interpolates_of_call true hf hsize hnests hdepth hslots 0
    fun vs h ↦ (h, .answer vs)
  exact ⟨i, a, caller, hconfig, hglobal, rfl, rfl, hf, hsize, hnests, hdepth, hslots,
    hreaches.bind fun _ ⟨_, ht⟩ ↦ .here ht⟩

end MacroStream.Script
