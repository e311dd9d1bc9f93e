import MacroStream.Proofs.Always
import MacroStream.Proofs.Script.PlainChunks

/-!
# How work for the host ends

A chunk that needs no answer from the host is followed here to its end, whatever memory there is. A
heap with a limit may be full at any statement, and then the machine finds out how much is really in
use, which is not followed: `used` may be anything afterwards, and there may be too little. So what
is said of a turn is said for every `used`, and a turn may come to two ends. It returns values, or
it throws, and `Turn.Ends` keeps what is known of the heap in both cases.

Nothing is caught on the way: functions of the chunk and of libraries let pass what is thrown
(`Frame.LetsPass`), down to the host.
-/

namespace MacroStream.Script

/-! ### Ends of turns -/

/-- Values were returned, and they satisfy `P` with the heap; or something was thrown, and it
satisfies `F` with the heap. -/
def Ending.Meets (P : List Value → Heap → Prop) (F : Thrown → Heap → Prop) (h : Heap) :
    Ending → Prop
  | .returned vs => P vs h
  | .threw t => F t h
  | .yielded _ | .exhausted => False

/-- Within a number of steps, and without a question to the host, a turn comes to an end. -/
def Turn.Ends (n : Nat) (P : List Value → Heap → Prop) (F : Thrown → Heap → Prop) (t : Turn) :
    Prop :=
  ∃ k ≤ n, ∃ m h e, Leads k t (.stop m h e) ∧ e.Meets P F h

variable {n k : Nat} {P : List Value → Heap → Prop} {F : Thrown → Heap → Prop} {m : Machine}
  {h : Heap}

namespace Turn

theorem Ends.mono {t : Turn} (ht : t.Ends n P F) (hn : n ≤ k) : t.Ends k P F := by
  obtain ⟨j, hj, hends⟩ := ht
  exact ⟨j, Nat.le_trans hj hn, hends⟩

theorem Ends.step {s : Signal} (ht : (m.step h s).Ends n P F) :
    (Turn.go m h s).Ends (n + 1) P F := by
  obtain ⟨j, hj, m', h', e, hleads, he⟩ := ht
  exact ⟨j + 1, Nat.succ_le_succ hj, m', h', e, .step hleads, he⟩

theorem ends_stop {e : Ending} (he : e.Meets P F h) : (Turn.stop m h e).Ends n P F :=
  ⟨0, Nat.zero_le n, m, h, e, .refl _, he⟩

end Turn

theorem exists_run_of_ends {μ : Type → Type} [Monad μ] {t : Turn} (ht : t.Ends n P F)
    (hn : n ≤ k) (respond : Responder μ) :
    ∃ m h e, Ending.Meets P F h e ∧ run respond k t = pure (m, h, e) := by
  obtain ⟨j, hj, m, h, e, hleads, he⟩ := ht
  exact ⟨m, h, e, he, run_of_leads hleads (Nat.le_trans hj hn)⟩

/-! ### Throwing -/

/-- A function that catches nothing, and has nothing to close. -/
structure Frame.LetsPass (f : Frame) : Prop where
  catcher : f.pending.catcher? = none
  closing : f.closingCells = []

/-- The functions of a stack above the host let everything pass. -/
def Machine.Open (m : Machine) : Prop :=
  ∃ fs, m.frames = fs ++ [Machine.hostFrame] ∧ ∀ f ∈ fs, f.LetsPass

theorem Machine.Open.cons {f : Frame} {fs : List Frame} (hf : f.LetsPass)
    (hm : Machine.Open { m with frames := fs }) : Machine.Open { m with frames := f :: fs } := by
  obtain ⟨gs, hgs, hpass⟩ := hm
  exact ⟨f :: gs, congrArg (f :: ·) hgs, List.forall_mem_cons.2 ⟨hf, hpass⟩⟩

theorem Machine.open_host : Machine.Open { m with frames := [Machine.hostFrame] } :=
  ⟨[], rfl, by simp⟩

theorem findCatcher_of_letsPass {fs : List Frame} (hfs : ∀ f ∈ fs, f.LetsPass)
    (cells : List Nat) : Machine.findCatcher cells (fs ++ [Machine.hostFrame]) =
      some (.host, cells, [Machine.hostFrame]) := by
  induction fs generalizing cells with
  | nil =>
    show some (Catcher.host, cells ++ [], [Machine.hostFrame]) = _
    rw [List.append_nil]
  | cons f fs ih =>
    obtain ⟨hf, hfs⟩ := List.forall_mem_cons.1 hfs
    rw [List.cons_append, Machine.findCatcher, hf.catcher, hf.closing, List.append_nil]
    exact ih hfs cells

theorem findSome?_of_letsPass {fs : List Frame} (hfs : ∀ f ∈ fs, f.LetsPass) :
    (fs ++ [Machine.hostFrame]).findSome? (fun f ↦ f.pending.catcher?) = some (.host, []) := by
  induction fs with
  | nil => rfl
  | cons f fs ih =>
    obtain ⟨hf, hfs⟩ := List.forall_mem_cons.1 hfs
    rw [List.cons_append, List.findSome?_cons, hf.catcher]
    exact ih hfs

/-- The host is told of what is thrown. -/
theorem throw_of_open (hm : m.Open) (h : Heap) (t : Thrown) :
    m.throw h t = .stop { m with frames := [] } h (.threw t) := by
  obtain ⟨fs, hframes, hfs⟩ := hm
  have hhandler : m.handler? = none := by
    rw [Machine.handler?, hframes, findSome?_of_letsPass hfs]
  rw [Machine.throw, hhandler]
  show m.unwind h t = _
  rw [Machine.unwind, hframes, findCatcher_of_letsPass hfs]
  rfl

theorem ends_throw {t : Thrown} (hm : m.Open) (hF : F t h) :
    (Turn.go m h (.throw t)).Ends (n + 1) P F := by
  have hstop : m.step h (.throw t) = .stop { m with frames := [] } h (.threw t) :=
    throw_of_open hm h t
  apply Turn.Ends.step
  rw [hstop]
  exact Turn.ends_stop hF

/-- What was thrown explains itself: the script need not be asked for its text. -/
inductive Heap.Explains (h : Heap) : Thrown → Prop
  | memory (v : Value) : Explains h ⟨v, .memory⟩
  | str (s : ByteArray) : Explains h ⟨.str s, .runtime⟩
  | host {a : Nat} {message : String} (ha : h.object? a = some (.hostError message)) :
    Explains h ⟨.userdata a, .runtime⟩

/-! ### Memory -/

/-- What is thrown where there is too little memory. -/
def noMemory : Thrown := ⟨.ofString "not enough memory", .memory⟩

/-- Where there is too little memory the host is told, and otherwise a statement is carried out. -/
theorem ends_performWithin {e : Effect} (hm : m.Open)
    (hfull : h.limit ≠ 0 → ∀ u, F noMemory { h with used := u })
    (hgo : ∀ u, (m.perform { h with used := u } e).Ends n P F) :
    (m.performWithin h e).Ends (n + 1) P F := by
  rw [Machine.performWithin]
  split
  case isFalse => exact (hgo h.used).mono (Nat.le_succ n)
  case isTrue hover =>
    have hlimit : h.limit ≠ 0 := by
      intro hzero
      simp [hzero] at hover
    show Turn.Ends _ P F (if _ then _ else _)
    split
    case isTrue => exact ends_throw hm (hfull hlimit _)
    case isFalse => exact (hgo _).mono (Nat.le_succ n)

/-- Asking for memory takes two steps where there seems to be too little. -/
theorem ends_reserve {bytes : Nat} {next : Unit → Heap → Heap × Signal} (hm : m.Open)
    (hfull : h.limit ≠ 0 → ∀ u, F noMemory { h with used := u })
    (hgo : ∀ u, (Turn.go m (next () { h with used := u }).1 (next () { h with used := u }).2).Ends
      n P F) :
    (Turn.go m (Action.reserve bytes next h).1 (Action.reserve bytes next h).2).Ends
      (n + 2) P F := by
  rw [Action.reserve]
  split
  case isFalse => exact (hgo _).mono (by omega)
  case isTrue hover =>
    have hlimit : h.limit ≠ 0 := by
      intro hzero
      simp [hzero] at hover
    apply Turn.Ends.step
    show Turn.Ends _ P F (.go m (ite _ _ _ : Heap × Signal).1 (ite _ _ _ : Heap × Signal).2)
    split
    case isTrue => exact ends_throw hm (hfull hlimit _)
    case isFalse => exact (hgo _).mono (Nat.le_succ n)

/-! ### Computations without signals -/

/-- A computation comes to a result and a heap that satisfy `P`; or it throws, and then that and the
heap satisfy `F`. It needs nothing from outside. -/
def Action.Comes {α : Type} (x : Action α) (h : Heap) (P : α → Heap → Prop)
    (F : Thrown → Heap → Prop) : Prop :=
  (∃ a h', P a h' ∧ ∀ k, x k h = k a h') ∨ ∃ t h', F t h' ∧ ∀ k, x k h = (h', .throw t)

namespace Action

variable {α β : Type} {x : Action α} {Q : α → Heap → Prop}

theorem comes_of_eq {a : α} {h' : Heap} (hx : ∀ k, x k h = k a h') (ha : Q a h') : x.Comes h Q F :=
  .inl ⟨a, h', ha, hx⟩

theorem comes_pure {a : α} (ha : Q a h) : (pure a : Action α).Comes h Q F :=
  comes_of_eq (pure_apply a · h) ha

theorem Comes.bind {f : α → Action β} {R : β → Heap → Prop} (hx : x.Comes h Q F)
    (hf : ∀ a h', Q a h' → (f a).Comes h' R F) : (x >>= f).Comes h R F := by
  rcases hx with ⟨a, h', ha, hx⟩ | ⟨t, h', hF, hx⟩
  · rcases hf a h' ha with ⟨b, h'', hb, hf⟩ | ⟨t, h'', hF, hf⟩
    · exact .inl ⟨b, h'', hb, fun k ↦ by rw [bind_apply, hx, hf]⟩
    · exact .inr ⟨t, h'', hF, fun k ↦ by rw [bind_apply, hx, hf]⟩
  · exact .inr ⟨t, h', hF, fun k ↦ by rw [bind_apply, hx]⟩

theorem Comes.mono {R : α → Heap → Prop} {E : Thrown → Heap → Prop} (hx : x.Comes h Q F)
    (hR : ∀ a h', Q a h' → R a h') (hE : ∀ t h', F t h' → E t h') : x.Comes h R E := by
  rcases hx with ⟨a, h', ha, hx⟩ | ⟨t, h', ht, hx⟩
  · exact .inl ⟨a, h', hR a h' ha, hx⟩
  · exact .inr ⟨t, h', hE t h' ht, hx⟩

theorem Comes.first {x : Action (List Value)} {R : Value → Heap → Prop}
    (hx : x.Comes h (fun vs h' ↦ R (vs.headD .nil) h') F) : (first x).Comes h R F :=
  hx.bind fun _ _ hvs ↦ comes_pure hvs

/-- What is done with the result decides how a turn ends. -/
theorem Comes.ends {next : α → Heap → Heap × Signal} (hx : x.Comes h Q F) (hm : m.Open)
    (hgo : ∀ a h', Q a h' → (Turn.go m (next a h').1 (next a h').2).Ends (n + 1) P F) :
    (Turn.go m (x next h).1 (x next h).2).Ends (n + 1) P F := by
  rcases hx with ⟨a, h', ha, hx⟩ | ⟨t, h', hF, hx⟩
  · rw [hx]
    exact hgo a h' ha
  · rw [hx]
    exact ends_throw hm hF

end Action

/-! ### Statements of a chunk -/

section Statements

variable {f : Frame} {a : Activation} {body : Block} {scope : Scope} {rest : List Statement}
  {e : Effect}

/-- The machine that runs a chunk of which the statements `rest` are left. -/
def chunkMachine (m : Machine) (f : Frame) (a : Activation) (body : Block) (scope : Scope)
    (rest : List Statement) : Machine :=
  { m with
    frames := [{ f with activation := some { a with
      scope := scope, control := [.block rest body [] []] } }, Machine.hostFrame] }

theorem open_chunkMachine (hf : f.pending = .none) (scope : Scope) (rest : List Statement) :
    (chunkMachine m f a body scope rest).Open :=
  Machine.open_host.cons ⟨by rw [hf]; rfl, rfl⟩

/-- One more statement of a chunk begins, if there is memory. -/
theorem ends_setupTurn {s : Statement} (he : e.Plain) (hf : f.pending = .none)
    (hfull : h.limit ≠ 0 → ∀ u, F noMemory { h with used := u })
    (hs : ∀ u, let c : Context := ⟨e.scopeBehind scope, a.captured, a.varargs, a.info.source⟩
      let told := Action.exec c s (fun e h ↦ (h, .effect e)) { h with used := u }
      (Turn.go (chunkMachine m f a body (e.scopeBehind scope) rest) told.1 told.2).Ends n P F) :
    (setupTurn m f a body scope (s :: rest) h e).Ends (n + 2) P F := by
  apply Turn.Ends.step
  rw [Machine.step]
  refine ends_performWithin (open_chunkMachine hf scope _) hfull fun u ↦ ?_
  cases he with
  | next => exact hs u
  | declare vars => exact hs u

/-- A statement of which it is known what comes of it. -/
theorem ends_setupTurn_of_comes {s : Statement} (he : e.Plain) (hf : f.pending = .none)
    (hfull : h.limit ≠ 0 → ∀ u, F noMemory { h with used := u })
    (hs : ∀ u, (Action.exec ⟨e.scopeBehind scope, a.captured, a.varargs, a.info.source⟩ s).Comes
      { h with used := u }
      (fun e' h' ↦ (setupTurn m f a body (e.scopeBehind scope) rest h' e').Ends (n + 1) P F) F) :
    (setupTurn m f a body scope (s :: rest) h e).Ends (n + 3) P F :=
  ends_setupTurn he hf hfull fun u ↦
    (hs u).ends (open_chunkMachine hf _ rest) fun _ _ hends ↦ hends

end Statements

/-! ### Work for the host -/

namespace Interpreter

variable {μ : Type → Type} [Monad μ] [LawfulMonad μ] (respond : Responder μ) {i : Interpreter}

theorem exists_finish_of_ends {t : Turn} (ht : t.Ends n P F) (hn : n ≤ stepLimit) :
    ∃ m h e, Ending.Meets P F h e ∧ finish respond t = pure (e, ⟨m, h⟩) := by
  obtain ⟨m, h, e, he, hrun⟩ := exists_run_of_ends ht hn respond
  refine ⟨m, h, e, he, ?_⟩
  rw [finish, hrun, pure_bind]

/-- Loads a chunk: its function, or nil and a message. -/
def loading (i : Interpreter) (name : String) (source : ByteArray) : Action (List Value) := do
  match ← Library.compile name.toUTF8 source "bt".toUTF8 (.table i.globals) 0 with
  | .ok f => return [f]
  | .error message => return [.nil, .str message]

/-- What a chunk that is loaded comes to. -/
inductive Compiles (i : Interpreter) (name : String) (source : ByteArray) :
    List Value → Heap → Prop
  | chunk {body : FunctionBody} {u : Nat} (hparse : Parser.parse name.toUTF8 0 source = .ok body) :
      Compiles i name source [.function i.heap.functions.size]
        ({ i.workHeap with used := u }.withChunk 0 (.table i.globals) body)
  | fault {message : ByteArray} {u : Nat}
      (hparse : ∀ body, Parser.parse name.toUTF8 0 source ≠ .ok body) :
      Compiles i name source [.nil, .str message] { i.workHeap with used := u }

theorem ends_loading (name : String) {source : ByteArray}
    (hsource : source.data.toList.head? ≠ some 27) :
    (Turn.go { i.machine with frames := workFrames, waiting := [] }
      (loading i name source (fun vs h ↦ (h, .answer vs)) i.workHeap).1
      (loading i name source (fun vs h ↦ (h, .answer vs)) i.workHeap).2).Ends 3
      (Compiles i name source)
      fun t h ↦ t = noMemory ∧ i.heap.limit ≠ 0 ∧ ∃ u, h = { i.workHeap with used := u } := by
  have hmode : "bt".toUTF8.data.toList = [98, 116] := by decide
  have htextual : (!List.contains [98, 116] (116 : UInt8)) = false := by decide
  have hopen : Machine.Open { i.machine with frames := workFrames, waiting := [] } :=
    ⟨[{ Machine.hostFrame with pending := .none }], rfl, by simp; exact ⟨rfl, rfl⟩⟩
  rw [loading, Action.bind_apply, Library.compile, if_neg hsource, hmode, htextual,
    if_neg Bool.false_ne_true, Action.bind_apply]
  refine ends_reserve hopen (fun hlimit u ↦ ⟨rfl, hlimit, u, rfl⟩) fun u ↦ Turn.Ends.step ?_
  cases hparse : Parser.parse name.toUTF8 0 source with
  | error fault =>
    have hnot (body : FunctionBody) : Parser.parse name.toUTF8 0 source ≠ .ok body := by
      rw [hparse]
      simp
    exact Turn.ends_stop (.fault (u := u) hnot)
  | ok body => exact Turn.ends_stop (.chunk (u := u) hparse)

/-- What comes of loading a chunk. -/
inductive Loads (i : Interpreter) (name : String) (source : ByteArray) :
    Except ScriptFault Value → Interpreter → Prop
  /-- A function for the chunk. -/
  | chunk {body : FunctionBody} {m : Machine} {u : Nat}
      (hparse : Parser.parse name.toUTF8 0 source = .ok body) :
      Loads i name source (.ok (.function i.heap.functions.size))
        ⟨m, { i.workHeap with used := u }.withChunk 0 (.table i.globals) body⟩
  /-- Nothing, and the heap is as it was. -/
  | nothing {fault : ScriptFault} {m : Machine} {r u : Nat}
      (hwhy : zeroByte? name.toUTF8 ≠ none ∨ i.heap.limit ≠ 0 ∨
        ∀ body, Parser.parse name.toUTF8 0 source ≠ .ok body) :
      Loads i name source (.error fault) ⟨m, { i.heap with running := r, used := u }⟩

omit [LawfulMonad μ] in
theorem describe_noMemory (i : Interpreter) :
    describe respond describeLimit i noMemory = pure (.memory "not enough memory", i) := by
  have hlimit : describeLimit = 19 + 1 := rfl
  rw [hlimit, describe]
  rfl

omit [LawfulMonad μ] in
theorem exists_describe {t : Thrown} (ht : i.heap.Explains t) :
    ∃ fault, describe respond describeLimit i t = pure (fault, i) := by
  have hlimit : describeLimit = 19 + 1 := rfl
  rw [hlimit]
  cases ht with
  | memory v => exact ⟨_, by rw [describe]⟩
  | str s => exact ⟨_, by rw [describe]⟩
  | @host a message ha => exact ⟨.host message, by rw [describe]; simp only [ha]⟩

/-- Whatever memory there is, loading asks the host for nothing. -/
theorem exists_loads (name : String) {source : ByteArray}
    (hsource : source.data.toList.head? ≠ some 27) :
    ∃ r i', load respond i name source = pure (r, i') ∧ Loads i name source r i' := by
  cases hname : zeroByte? name.toUTF8 with
  | some position =>
    have hwhy : zeroByte? name.toUTF8 ≠ none := by
      rw [hname]
      simp
    refine ⟨.error (zeroInName position), i, ?_, .nothing (m := i.machine) (.inl hwhy)⟩
    simp only [load, hname]
  | none =>
    obtain ⟨m, h, e, he, hfinish⟩ := exists_finish_of_ends respond
      (ends_loading (i := i) name hsource) (by decide)
    have hwork : work respond i (loading i name source) = pure (e, ⟨m, h⟩) := hfinish
    rw [load, hname]
    change ∃ r i', (work respond i (loading i name source) >>= _) = _ ∧ _
    rw [hwork, pure_bind]
    cases e with
    | returned vs =>
      cases he with
      | @chunk body u hparse =>
        refine ⟨_, _, ?_, .chunk (m := m) (u := u) hparse⟩
        rw [settle, pure_bind]
      | @fault message u hparse =>
        refine ⟨.error (.malformed (shownText message)), _, ?_,
          .nothing (m := m) (r := 0) (u := u) (.inr (.inr hparse))⟩
        rw [settle, pure_bind]
        rfl
    | threw t =>
      obtain ⟨rfl, hlimit, u, rfl⟩ := he
      refine ⟨.error (.memory "not enough memory"), _, ?_,
        .nothing (m := m) (r := 0) (u := u) (.inr (.inl hlimit))⟩
      rw [settle, describe_noMemory, pure_bind, pure_bind]
      rfl
    | yielded | exhausted => exact he.elim

/-- What is called without arguments, and asks the host for nothing, returns what its turn comes to.
Neither is the host asked to describe what it throws, if that explains itself. -/
theorem exists_call {f : Value} (hf : (i.machine.beginCall i.heap f []).Ends n P F)
    (hn : n ≤ stepLimit) (hF : ∀ t h, F t h → h.Explains t) :
    ∃ r i', call respond i f [] = pure (r, i') ∧ match r with
      | .ok vs => P vs i'.heap
      | .error _ => ∃ t, F t i'.heap := by
  obtain ⟨m, h, e, he, hfinish⟩ := exists_finish_of_ends respond hf hn
  cases e with
  | returned vs =>
    refine ⟨.ok vs, ⟨m, h⟩, ?_, he⟩
    rw [call, hfinish, pure_bind, settle]
  | threw t =>
    obtain ⟨fault, hdescribe⟩ := exists_describe respond (i := ⟨m, h⟩) (hF t h he)
    refine ⟨.error fault, ⟨m, h⟩, ?_, t, he⟩
    rw [call, hfinish, pure_bind, settle, hdescribe, pure_bind]
  | yielded | exhausted => exact he.elim

end Interpreter

end MacroStream.Script
