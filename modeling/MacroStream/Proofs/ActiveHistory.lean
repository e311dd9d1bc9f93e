import Mathlib.Algebra.GroupWithZero.Nat
import MacroStream.ActiveMacro
import MacroStream.Proofs.EntrypointHistory

/-!
# Histories of an active macro

What a host sees when it works through a macro with the four operations in any order. The engine
that runs scripts is watched: each script that is started and each output of a coroutine is written
down, so that what was run can be told from what was answered.

* `Step` says once what one call can do, for both languages. `observeOne_step` is the only place
  where the definitions of the operations are opened.
* `observe_recraft` says that the craft loop settings of the macro make no difference to a script:
  they are carried along, and nothing looks at them.

What the commands mean to the host is left out. A host that fails in its own monad ends the history
there, and nothing is said of it.
-/

namespace MacroStream

namespace ScriptBridge

open Entrypoint (judge)

variable {m : Type → Type} [Monad m] {T : Type} {engine : ScriptEngine m T} {b : ScriptBridge T}

/-- Asking for a line leaves the coroutine alone. -/
def Idle (b : ScriptBridge T) : Prop :=
  b.state.isTerminal = true ∨ ∃ s, b.entrypoint = some ⟨none, s⟩

theorem nextLine_of_idle [LawfulMonad m] (hb : b.Idle) :
    b.nextLine engine = pure (.ok none, b) := by
  obtain ⟨_ | e⟩ := b
  · rfl
  · have he : e.state.isTerminal = true ∨ e.thread = none := by
      refine hb.imp id fun ⟨s, hs⟩ ↦ ?_
      rw [Option.some.inj hs]
    simp [nextLine, Entrypoint.resume_of_idle he]

theorem nextLine_of_live [LawfulMonad m] (t : T) {s : EntrypointState} (hs : s.isTerminal = false) :
    nextLine engine ⟨some ⟨some t, s⟩⟩ = (do
      let (r, t) ← engine.resume t
      return ((judge r).1, ⟨some ⟨some t, (judge r).2⟩⟩)) := by
  simp [nextLine, Entrypoint.resume_of_live t hs]

/-- A bridge that is not idle holds a coroutine that can go on. -/
theorem exists_of_not_idle (hb : ¬b.Idle) :
    ∃ t s, s.isTerminal = false ∧ b = ⟨some ⟨some t, s⟩⟩ := by
  obtain ⟨_ | ⟨_ | t, s⟩⟩ := b
  · exact absurd (Or.inl rfl) hb
  · exact absurd (Or.inr ⟨s, rfl⟩) hb
  · have hs : s.isTerminal ≠ true := fun h ↦ hb (.inl h)
    exact ⟨t, s, by simpa using hs, rfl⟩

end ScriptBridge

namespace ActiveMacro

open Entrypoint (judge)

variable {m : Type → Type} {T : Type}

/-! ### Watched calls -/

/-- What a host does with a macro. -/
inductive Call where
  | currentStep
  | advance
  | loopToStart
  | dispose
  deriving DecidableEq, Repr

/-- What the host is answered. -/
inductive Answer where
  | step (c : Outcome (Option Command))
  | loop (o : Outcome Unit)
  /-- The call answers nothing. -/
  | done

/-- What the engine that runs scripts was asked to do. -/
inductive Touch where
  /-- A script was started, or was to be. -/
  | started
  /-- A coroutine was resumed, and gave this. -/
  | gave (r : Resumed)

/-- One call, with the macro before and behind it. -/
structure Event (T : Type) where
  call : Call
  before : ActiveMacro T
  touches : List Touch
  answer : Answer
  after : ActiveMacro T

/-- The command that was answered. -/
def Event.command? (ev : Event T) : Option Command :=
  match ev.answer with
  | .step (.ok c) => c
  | _ => none

section Watching

variable [Monad m]

/-- Writes down what an engine is asked to do. -/
def watched (engine : ScriptEngine m T) : ScriptEngine (StateT (List Touch) m) T where
  start name source touches := do
    let t ← engine.start name source
    return (t, touches ++ [.started])
  resume t touches := do
    let (r, t) ← engine.resume t
    return ((r, t), touches ++ [.gave r])

/-- One call. -/
def perform (report : Diagnostic → m Unit) (engine : ScriptEngine m T) (a : ActiveMacro T) :
    Call → m (Answer × ActiveMacro T)
  | .currentStep => do
    let (c, a) ← a.currentStep report engine
    return (.step c, a)
  | .advance => return (.done, a.advance)
  | .loopToStart => do
    let (o, a) ← a.loopToStart report
    return (.loop o, a)
  | .dispose => do
    let a ← a.dispose report
    return (.done, a)

/-- Calls one after the other, with their answers. -/
def performAll (report : Diagnostic → m Unit) (engine : ScriptEngine m T) (a : ActiveMacro T) :
    List Call → m (List Answer × ActiveMacro T)
  | [] => return ([], a)
  | c :: cs => do
    let (answer, a) ← perform report engine a c
    let (answers, a) ← performAll report engine a cs
    return (answer :: answers, a)

/-- One call while the engine is watched. -/
def observeOne (report : Diagnostic → m Unit) (engine : ScriptEngine m T) (a : ActiveMacro T)
    (c : Call) : m (Event T × ActiveMacro T) := do
  let ((answer, a'), touches) ←
    (perform (fun d ↦ StateT.lift (report d)) (watched engine) a c).run []
  return (⟨c, a, touches, answer, a'⟩, a')

/-- Calls one after the other while the engine is watched. -/
def observe (report : Diagnostic → m Unit) (engine : ScriptEngine m T) (a : ActiveMacro T) :
    List Call → m (List (Event T) × ActiveMacro T)
  | [] => return ([], a)
  | c :: cs => do
    let (ev, a) ← observeOne report engine a c
    let (evs, a) ← observe report engine a cs
    return (ev :: evs, a)

end Watching

/-! ### What one call can do -/

/-- The command that an output of a coroutine comes to. -/
def heard (parser : CommandParser) (r : Resumed) : Option Command := r.line?.bind parser.parseLine

/-- What the host is answered when the coroutine gave `r`. -/
def answerTo (parser : CommandParser) (r : Resumed) : Outcome (Option Command) :=
  (judge r).1.map fun line ↦ line.bind parser.parseLine

/-- The macro behind an output of its coroutine. -/
def afterOutput (a : ActiveMacro T) (t : T) (r : Resumed) : ActiveMacro T :=
  { a with steps := a.steps ++ (heard a.parser r).toList,
           bridge := some ⟨some ⟨some t, (judge r).2⟩⟩ }

/-- The macro without its script. -/
def letGo (a : ActiveMacro T) : ActiveMacro T := { a with bridge := none, disposed := true }

/-- What one call does. -/
inductive Step : ActiveMacro T → Event T → ActiveMacro T → Prop
  | advanced (a : ActiveMacro T) : Step a ⟨.advance, a, [], .done, a.advance⟩ a.advance
  | looped (a : ActiveMacro T) (h : a.node.isScript = false) :
    Step a ⟨.loopToStart, a, [], .loop (.ok ()), { a with stepIndex := -1 }⟩
      { a with stepIndex := -1 }
  /-- Scripts do not start again. -/
  | refused (a : ActiveMacro T) (h : a.node.isScript = true) :
    Step a ⟨.loopToStart, a, [], .loop (.error noLoop), a⟩ a
  | pointed (a : ActiveMacro T) (h : a.node.isScript = false) :
    Step a ⟨.currentStep, a, [], .step (.ok a.stepAtCursor), a⟩ a
  /-- The script was disposed of, or has nothing more to give. -/
  | idle (a : ActiveMacro T) (h : a.node.isScript = true)
    (hidle : a.disposed = true ∨ ∃ b, a.bridge = some b ∧ b.Idle) :
    Step a ⟨.currentStep, a, [], .step (.ok none), a⟩ a
  /-- The script cannot be started. -/
  | stuck (a : ActiveMacro T) (e : EngineError) (h : a.node.isScript = true)
    (hd : a.disposed = false) (hb : a.bridge = none) :
    Step a ⟨.currentStep, a, [.started], .step (.error e), a⟩ a
  /-- The script starts, and gives its first output. -/
  | opened (a : ActiveMacro T) (t : T) (r : Resumed) (h : a.node.isScript = true)
    (hd : a.disposed = false) (hb : a.bridge = none) :
    Step a ⟨.currentStep, a, [.started, .gave r], .step (answerTo a.parser r), a.afterOutput t r⟩
      (a.afterOutput t r)
  /-- The script goes on. -/
  | resumed (a : ActiveMacro T) (t t' : T) (r : Resumed) {s : EntrypointState}
    (h : a.node.isScript = true) (hd : a.disposed = false)
    (hb : a.bridge = some ⟨some ⟨some t, s⟩⟩) (hs : s.isTerminal = false) :
    Step a ⟨.currentStep, a, [.gave r], .step (answerTo a.parser r), a.afterOutput t' r⟩
      (a.afterOutput t' r)
  | disposed (a : ActiveMacro T) : Step a ⟨.dispose, a, [], .done, a.letGo⟩ a.letGo

/-- What a sequence of calls does. -/
inductive Steps : ActiveMacro T → List (Event T) → ActiveMacro T → Prop
  | nil (a : ActiveMacro T) : Steps a [] a
  | cons {a a' a'' : ActiveMacro T} {ev : Event T} {evs : List (Event T)} (h : Step a ev a')
    (hs : Steps a' evs a'') : Steps a (ev :: evs) a''

theorem Step.node_eq {a a' : ActiveMacro T} {ev : Event T} (h : Step a ev a') :
    a'.node = a.node := by
  cases h <;> rfl

section Invariants

variable {I J : ActiveMacro T → Prop} {P Q : Event T → Prop} {a a' : ActiveMacro T}
  {evs : List (Event T)}

theorem Steps.run (h : Steps a evs a') : Run Step a evs a' := by
  induction h with
  | nil a => exact .nil a
  | cons h _ ih => exact .cons h ih

/-- What every step keeps and shows is shown by every event of a history. -/
theorem Steps.forall_of_kept (hstep : ∀ {a ev a'}, Step a ev a' → I a → I a' ∧ Q ev)
    (h : Steps a evs a') (ha : I a) : ∀ ev ∈ evs, Q ev :=
  h.run.forall_of_kept hstep ha

/-- If an event with `P` makes sure of what every step then keeps and shows, all later events show
it. -/
theorem Steps.pairwise_of_kept (hJ : ∀ {a ev a'}, Step a ev a' → J a → J a')
    (hlead : ∀ {a ev a'}, Step a ev a' → J a → P ev → I a')
    (hstep : ∀ {a ev a'}, Step a ev a' → I a → I a' ∧ Q ev) (h : Steps a evs a') (ha : J a) :
    evs.Pairwise fun x y ↦ P x → Q y :=
  h.run.pairwise_of_kept hJ hlead hstep ha

end Invariants

section Watched

variable [Monad m] {report : Diagnostic → m Unit} {engine : ScriptEngine m T}
  {a : ActiveMacro T}

/-- What is said of a line that a script gave. -/
def remark (report : Diagnostic → m Unit) (a : ActiveMacro T) : Outcome (Option String) → m Unit
  | .error _ => pure ()
  | .ok none => report (scriptFinished a.node a.steps.length)
  | .ok (some line) =>
    match a.parser.parseLine line with
    | some _ => pure ()
    | none => report (notACommand a.node line)

/-- The coroutine runs, and its output is taken. -/
def advanceScript (report : Diagnostic → m Unit) (engine : ScriptEngine m T) (a : ActiveMacro T)
    (t : T) : m (Outcome (Option Command) × ActiveMacro T) := do
  let (r, t) ← engine.resume t
  remark report a (judge r).1
  return (answerTo a.parser r, a.afterOutput t r)

theorem currentStep_of_native (h : a.node.isScript = false) :
    a.currentStep report engine = pure (.ok a.stepAtCursor, a) := by
  simp [currentStep, h]

theorem currentStep_of_disposed (h : a.node.isScript = true) (hd : a.disposed = true) :
    a.currentStep report engine = pure (.ok none, a) := by
  simp [currentStep, h, hd]

variable [LawfulMonad m]

theorem scriptStep_of_live (t : T) {s : EntrypointState} (hs : s.isTerminal = false) :
    scriptStep report engine a ⟨some ⟨some t, s⟩⟩ = advanceScript report engine a t := by
  simp only [scriptStep, ScriptBridge.nextLine_of_live t hs, advanceScript, bind_assoc, pure_bind]
  refine bind_congr fun r ↦ ?_
  obtain ⟨r, t'⟩ := r
  rcases r with (_ | ⟨line | _, _⟩) | (_ | ⟨line | _, _⟩) | _
  -- Only a string is shown to the parser; any other output is settled by `judge` alone.
  case yielded.cons.text | returned.cons.text =>
    cases h : a.parser.parseLine line <;>
      simp [judge, Entrypoint.firstLine, remark, answerTo, afterOutput, heard, Resumed.line?,
        takeLine, h, Except.map]
  all_goals
    simp [judge, Entrypoint.firstLine, remark, answerTo, afterOutput, heard, Resumed.line?,
      Except.map]

theorem scriptStep_of_idle {b : ScriptBridge T} (hb : b.Idle) :
    scriptStep report engine a b = (do
      report (scriptFinished a.node a.steps.length)
      return (.ok none, { a with bridge := some b })) := by
  simp [scriptStep, ScriptBridge.nextLine_of_idle hb]

theorem currentStep_of_idle (h : a.node.isScript = true) (hd : a.disposed = false)
    {b : ScriptBridge T} (hb : a.bridge = some b) (hidle : b.Idle) :
    a.currentStep report engine = (do
      report (scriptFinished a.node a.steps.length)
      return (.ok none, a)) := by
  have hstep : a.currentStep report engine = scriptStep report engine a b := by
    simp [currentStep, h, hd, hb]
  rw [hstep, scriptStep_of_idle hidle, ← hb]

theorem currentStep_of_live (h : a.node.isScript = true) (hd : a.disposed = false) {t : T}
    {s : EntrypointState} (hb : a.bridge = some ⟨some ⟨some t, s⟩⟩) (hs : s.isTerminal = false) :
    a.currentStep report engine = advanceScript report engine a t := by
  simp [currentStep, h, hd, hb, scriptStep_of_live t hs]

theorem currentStep_of_unopened (h : a.node.isScript = true) (hd : a.disposed = false)
    (hb : a.bridge = none) :
    a.currentStep report engine = (do
      match ← engine.start a.node.name a.node.contents with
      | .error e => return (.error e, a)
      | .ok t => advanceScript report engine a t) := by
  simp only [currentStep, h, hd, hb, ScriptBridge.init, bind_assoc, pure_bind]
  refine bind_congr fun t ↦ ?_
  cases t with
  | error => rfl
  | ok t => exact scriptStep_of_live t rfl

/-- How a script stands when its next command is wanted. -/
theorem exists_bridge_cases (a : ActiveMacro T) :
    a.disposed = true ∨ a.disposed = false ∧
      (a.bridge = none ∨ (∃ b, a.bridge = some b ∧ b.Idle) ∨
        ∃ t s, a.bridge = some ⟨some ⟨some t, s⟩⟩ ∧ s.isTerminal = false) := by
  rcases hd : a.disposed with _ | _
  · refine .inr ⟨rfl, ?_⟩
    rcases hb : a.bridge with _ | b
    · exact .inl rfl
    · refine .inr ?_
      by_cases hidle : b.Idle
      · exact .inl ⟨b, rfl, hidle⟩
      · obtain ⟨t, s, hs, rfl⟩ := ScriptBridge.exists_of_not_idle hidle
        exact .inr ⟨t, s, rfl, hs⟩
  · exact .inl rfl

/-! ### What is watched -/

@[simp]
theorem run_watched_start (name source : String) (touches : List Touch) :
    ((watched engine).start name source).run touches =
      (fun t ↦ (t, touches ++ [.started])) <$> engine.start name source := by
  rw [← bind_pure_comp]
  rfl

@[simp]
theorem run_watched_resume (t : T) (touches : List Touch) :
    ((watched engine).resume t).run touches =
      (fun r ↦ (r, touches ++ [.gave r.1])) <$> engine.resume t := by
  rw [← bind_pure_comp]
  rfl

theorem run_remark_lift (line : Outcome (Option String)) (touches : List Touch) :
    (remark (fun d ↦ (StateT.lift (report d) : StateT (List Touch) m Unit)) a line).run touches =
      (fun _ ↦ ((), touches)) <$> remark report a line := by
  rcases line with _ | _ | line
  · simp [remark]
  · simp [remark]
  · cases hc : a.parser.parseLine line <;> simp [remark, hc]

theorem run_advanceScript_watched (t : T) (touches : List Touch) :
    (advanceScript (fun d ↦ (StateT.lift (report d) : StateT (List Touch) m Unit)) (watched engine)
      a t).run touches = (do
        let (r, t) ← engine.resume t
        remark report a (judge r).1
        return ((answerTo a.parser r, a.afterOutput t r), touches ++ [.gave r])) := by
  simp [advanceScript, run_remark_lift]

theorem observeOne_advance :
    observeOne report engine a .advance =
      pure (⟨.advance, a, [], .done, a.advance⟩, a.advance) := by
  simp [observeOne, perform]

theorem observeOne_loopToStart_of_native (h : a.node.isScript = false) :
    observeOne report engine a .loopToStart =
      (fun _ ↦ (⟨.loopToStart, a, [], .loop (.ok ()), { a with stepIndex := -1 }⟩,
        { a with stepIndex := -1 })) <$> report (looping a.node) := by
  simp [observeOne, perform, loopToStart, h]

theorem observeOne_loopToStart_of_script (h : a.node.isScript = true) :
    observeOne report engine a .loopToStart =
      pure (⟨.loopToStart, a, [], .loop (.error noLoop), a⟩, a) := by
  simp [observeOne, perform, loopToStart, h]

theorem observeOne_dispose :
    observeOne report engine a .dispose =
      (fun _ ↦ (⟨.dispose, a, [], .done, a.letGo⟩, a.letGo)) <$>
        (a.bridge.elim (pure ()) fun _ ↦ report (released a.node)) := by
  rcases hb : a.bridge with _ | b <;> simp [observeOne, perform, dispose, hb, letGo]

theorem observeOne_currentStep_of_native (h : a.node.isScript = false) :
    observeOne report engine a .currentStep =
      pure (⟨.currentStep, a, [], .step (.ok a.stepAtCursor), a⟩, a) := by
  simp [observeOne, perform, currentStep_of_native h]

theorem observeOne_currentStep_of_disposed (h : a.node.isScript = true) (hd : a.disposed = true) :
    observeOne report engine a .currentStep =
      pure (⟨.currentStep, a, [], .step (.ok none), a⟩, a) := by
  simp [observeOne, perform, currentStep_of_disposed h hd]

theorem observeOne_currentStep_of_idle (h : a.node.isScript = true) (hd : a.disposed = false)
    {b : ScriptBridge T} (hb : a.bridge = some b) (hidle : b.Idle) :
    observeOne report engine a .currentStep =
      (fun _ ↦ (⟨.currentStep, a, [], .step (.ok none), a⟩, a)) <$>
        report (scriptFinished a.node a.steps.length) := by
  simp [observeOne, perform, currentStep_of_idle h hd hb hidle]

theorem observeOne_currentStep_of_live (h : a.node.isScript = true) (hd : a.disposed = false)
    {t : T} {s : EntrypointState} (hb : a.bridge = some ⟨some ⟨some t, s⟩⟩)
    (hs : s.isTerminal = false) :
    observeOne report engine a .currentStep = (do
      let (r, t) ← engine.resume t
      remark report a (judge r).1
      return (⟨.currentStep, a, [.gave r], .step (answerTo a.parser r), a.afterOutput t r⟩,
        a.afterOutput t r)) := by
  simp [observeOne, perform, currentStep_of_live h hd hb hs, run_advanceScript_watched]

theorem observeOne_currentStep_of_unopened (h : a.node.isScript = true) (hd : a.disposed = false)
    (hb : a.bridge = none) :
    observeOne report engine a .currentStep = (do
      match ← engine.start a.node.name a.node.contents with
      | .error e => return (⟨.currentStep, a, [.started], .step (.error e), a⟩, a)
      | .ok t =>
        let (r, t) ← engine.resume t
        remark report a (judge r).1
        return (⟨.currentStep, a, [.started, .gave r], .step (answerTo a.parser r),
          a.afterOutput t r⟩, a.afterOutput t r)) := by
  simp only [observeOne, perform, currentStep_of_unopened h hd hb, StateT.run_bind, bind_assoc,
    run_watched_start, bind_map_left, List.nil_append]
  refine bind_congr fun t ↦ ?_
  cases t with
  | error => simp
  | ok t => simp [run_advanceScript_watched]

theorem observeOne_step (a : ActiveMacro T) (c : Call) :
    Always (fun r ↦ Step a r.1 r.2 ∧ r.1.call = c) (observeOne report engine a c) := by
  cases c with
  | advance =>
    rw [observeOne_advance]
    exact .pure ⟨.advanced a, rfl⟩
  | loopToStart =>
    rcases h : a.node.isScript
    · rw [observeOne_loopToStart_of_native h]
      exact (Always.trivially _).map fun _ _ ↦ ⟨.looped a h, rfl⟩
    · rw [observeOne_loopToStart_of_script h]
      exact .pure ⟨.refused a h, rfl⟩
  | dispose =>
    rw [observeOne_dispose]
    exact (Always.trivially _).map fun _ _ ↦ ⟨.disposed a, rfl⟩
  | currentStep =>
    rcases h : a.node.isScript
    · rw [observeOne_currentStep_of_native h]
      exact .pure ⟨.pointed a h, rfl⟩
    · rcases a.exists_bridge_cases with hd | ⟨hd, hb | ⟨b, hb, hidle⟩ | ⟨t, s, hb, hs⟩⟩
      · rw [observeOne_currentStep_of_disposed h hd]
        exact .pure ⟨.idle a h (.inl hd), rfl⟩
      · rw [observeOne_currentStep_of_unopened h hd hb]
        refine (Always.trivially _).bind fun t _ ↦ ?_
        cases t with
        | error e => exact .pure ⟨.stuck a e h hd hb, rfl⟩
        | ok t =>
          exact (Always.trivially _).bind fun r _ ↦ (Always.trivially _).bind fun _ _ ↦
            .pure ⟨.opened a r.2 r.1 h hd hb, rfl⟩
      · rw [observeOne_currentStep_of_idle h hd hb hidle]
        exact (Always.trivially _).map fun _ _ ↦ ⟨.idle a h (.inr ⟨b, hb, hidle⟩), rfl⟩
      · rw [observeOne_currentStep_of_live h hd hb hs]
        exact (Always.trivially _).bind fun r _ ↦ (Always.trivially _).bind fun _ _ ↦
          .pure ⟨.resumed a t r.2 r.1 h hd hb hs, rfl⟩

theorem observe_steps (a : ActiveMacro T) (cs : List Call) :
    Always (fun r ↦ Steps a r.1 r.2 ∧ r.1.map Event.call = cs) (observe report engine a cs) := by
  induction cs generalizing a with
  | nil => exact .pure ⟨.nil a, rfl⟩
  | cons c cs ih =>
    refine (observeOne_step a c).bind fun r hr ↦ (ih r.2).bind fun rs hrs ↦ .pure ⟨?_, ?_⟩
    · exact .cons hr.1 hrs.1
    · rw [List.map_cons, hr.2, hrs.2]

theorem answer_observeOne (a : ActiveMacro T) (c : Call) :
    (fun r ↦ (r.1.answer, r.2)) <$> observeOne report engine a c = perform report engine a c := by
  cases c with
  | advance => simp [observeOne_advance, perform]
  | loopToStart =>
    rcases h : a.node.isScript
    · simp [observeOne_loopToStart_of_native h, perform, loopToStart, h]
    · simp [observeOne_loopToStart_of_script h, perform, loopToStart, h]
  | dispose =>
    rw [observeOne_dispose]
    rcases hb : a.bridge <;> simp [perform, dispose, hb, letGo]
  | currentStep =>
    rcases h : a.node.isScript
    · simp [observeOne_currentStep_of_native h, perform, currentStep_of_native h]
    · rcases a.exists_bridge_cases with hd | ⟨hd, hb | ⟨b, hb, hidle⟩ | ⟨t, s, hb, hs⟩⟩
      · simp [observeOne_currentStep_of_disposed h hd, perform, currentStep_of_disposed h hd]
      · simp only [observeOne_currentStep_of_unopened h hd hb, perform,
          currentStep_of_unopened h hd hb, map_bind, bind_assoc]
        refine bind_congr fun t ↦ ?_
        cases t <;> simp [advanceScript]
      · simp [observeOne_currentStep_of_idle h hd hb hidle, perform,
          currentStep_of_idle h hd hb hidle]
      · simp [observeOne_currentStep_of_live h hd hb hs, perform,
          currentStep_of_live h hd hb hs, advanceScript]

/-- Watching changes nothing. -/
theorem answers_observe (a : ActiveMacro T) (cs : List Call) :
    (fun r ↦ (r.1.map Event.answer, r.2)) <$> observe report engine a cs =
      performAll report engine a cs := by
  induction cs generalizing a with
  | nil => simp [observe, performAll]
  | cons c cs ih => simp [observe, performAll, ← answer_observeOne, ← ih]

end Watched

/-! ### Craft loop settings -/

/-- The macro with other craft loop settings. -/
def recraft (on : Bool) (count : Int32) (a : ActiveMacro T) : ActiveMacro T :=
  { a with node := { a.node with craftLoop := on, craftLoopCount := count } }

/-- The event for a macro with other craft loop settings. -/
def Event.recraft (on : Bool) (count : Int32) (ev : Event T) : Event T :=
  { ev with before := ev.before.recraft on count, after := ev.after.recraft on count }

section Recraft

variable [Monad m] {report : Diagnostic → m Unit} {engine : ScriptEngine m T}
  {a : ActiveMacro T} (on : Bool) (count : Int32)

theorem remark_recraft (line : Outcome (Option String)) :
    remark report (a.recraft on count) line = remark report a line := by
  rcases line with _ | _ | _ <;> rfl

variable [LawfulMonad m]

/-- A script does not look at its craft loop settings. -/
theorem observeOne_recraft (h : a.node.isScript = true) (c : Call) :
    observeOne report engine (a.recraft on count) c =
      Prod.map (Event.recraft on count) (recraft on count) <$> observeOne report engine a c := by
  have h' : (a.recraft on count).node.isScript = true := h
  cases c with
  | advance =>
    simp only [observeOne_advance, map_pure]
    rfl
  | loopToStart =>
    simp only [observeOne_loopToStart_of_script h, observeOne_loopToStart_of_script h', map_pure]
    rfl
  | dispose =>
    simp only [observeOne_dispose, Functor.map_map]
    rfl
  | currentStep =>
    rcases a.exists_bridge_cases with hd | ⟨hd, hb | ⟨b, hb, hidle⟩ | ⟨t, s, hb, hs⟩⟩
    · rw [observeOne_currentStep_of_disposed h hd, observeOne_currentStep_of_disposed h' hd,
        map_pure]
      rfl
    · rw [observeOne_currentStep_of_unopened h hd hb, observeOne_currentStep_of_unopened h' hd hb,
        map_bind]
      refine bind_congr fun t ↦ ?_
      cases t with
      | error => rw [map_pure]; rfl
      | ok t =>
        simp only [map_bind, map_pure, remark_recraft]
        rfl
    · rw [observeOne_currentStep_of_idle h hd hb hidle,
        observeOne_currentStep_of_idle h' hd hb hidle, Functor.map_map]
      rfl
    · rw [observeOne_currentStep_of_live h hd hb hs, observeOne_currentStep_of_live h' hd hb hs]
      simp only [map_bind, map_pure, remark_recraft]
      rfl

theorem observe_recraft (h : a.node.isScript = true) (cs : List Call) :
    observe report engine (a.recraft on count) cs =
      Prod.map (List.map (Event.recraft on count)) (recraft on count) <$>
        observe report engine a cs := by
  induction cs generalizing a with
  | nil => simp [observe]
  | cons c cs ih =>
    simp only [observe, observeOne_recraft on count h, bind_map_left, map_bind, map_pure]
    -- The rest of the history needs that the macro is still a script, which results of a call know.
    refine (observeOne_step a c).bind_eq_bind fun r hr ↦ ?_
    have hscript : r.2.node.isScript = true := by rwa [hr.1.node_eq]
    simp [ih hscript]

end Recraft

end ActiveMacro

end MacroStream
