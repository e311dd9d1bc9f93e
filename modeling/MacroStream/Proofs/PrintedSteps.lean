import MacroStream.CommandLine
import MacroStream.Proofs.ScriptHistory

/-!
# Printed steps

What the program prints while it works through a macro, whatever the coroutine of its script does
and wherever an error ends it.

The program is watched: everything that it prints itself is written down, together with what the
engine that runs scripts was asked to do. A script may write to the standard output as well, which
is its own affair and not among the notes. It may do so whenever something of it runs: while it is
started, if its text ends the function early that it becomes the body of, and while its coroutine
runs. What its finalizers write would not be among the notes either, but they are not modelled, as
nothing is collected (`Script.Heap`).

The notes of a script are `told` by what its coroutine gave: each command is printed before the
coroutine runs on. `Ending` lists the ways in which it ends, one of which is that the program gives
up. For the command language that cannot happen, as the steps are known.
-/

namespace MacroStream

namespace ActiveMacro

/-- No request is answered by a command any more, whoever runs scripts, unless the macro starts
again. -/
def Spent {T : Type} (a : ActiveMacro T) : Prop :=
  ∀ {m : Type → Type} [Monad m] [LawfulMonad m] (report : Diagnostic → m Unit)
    (engine : ScriptEngine m T) (cs : List Call), .loopToStart ∉ cs →
    Always (fun r ↦ ∀ ev ∈ r.1, ev.command? = none) (observe report engine a cs)

variable {T : Type} {a : ActiveMacro T}

theorem spent_of_kept {I : ActiveMacro T → Prop}
    (hstep : ∀ {a ev a'}, Step a ev a' → I a → ev.call ≠ .loopToStart → I a' ∧ ev.command? = none)
    (ha : I a) : a.Spent := by
  intro m _ _ report engine cs hcs
  refine (observe_steps a cs).mono fun r hr ↦ ?_
  refine hr.1.run.forall_of_kept_while (P := fun ev ↦ ev.call ≠ .loopToStart) hstep ha ?_
  rintro ev hev hloop
  rw [← hr.2, List.mem_map] at hcs
  exact hcs ⟨ev, hev, hloop⟩

/-- A macro in the command language is spent when the cursor stands behind its steps. -/
theorem spent_of_native (h : a.node.isScript = false) (hcursor : a.steps.length ≤ a.stepIndex) :
    a.Spent := by
  refine spent_of_kept (I := fun a ↦ a.node.isScript = false ∧ a.steps.length ≤ a.stepIndex) ?_
    ⟨h, hcursor⟩
  rintro a ev a' hstep ⟨ha, hcursor⟩ hcall
  cases hstep with
  | advanced =>
    have hmoved : (a.steps.length : Int) ≤ a.stepIndex + 1 := by omega
    exact ⟨⟨ha, hmoved⟩, rfl⟩
  | looped => exact absurd rfl hcall
  | pointed =>
    have hbehind : a.stepAtCursor = none := by
      rw [stepAtCursor, if_pos (by omega), List.getElem?_eq_none_iff]
      omega
    exact ⟨⟨ha, hcursor⟩, hbehind⟩
  | disposed => exact ⟨⟨ha, hcursor⟩, rfl⟩
  | refused h | idle h | stuck e h | opened t r h | resumed t t' r h =>
    exact absurd h (by simp [ha])

/-- A script is spent when its coroutine has come to an end. -/
theorem spent_of_terminal (h : a.node.isScript = true) {b : ScriptBridge T}
    (hb : a.bridge = some b) (hterminal : b.state.isTerminal = true) : a.Spent := by
  refine spent_of_kept (I := fun a ↦ a.node.isScript = true ∧
    (a.disposed = true ∨ a.bridge = some b)) ?_ ⟨h, .inr hb⟩
  rintro a ev a' hstep ⟨ha, hgone⟩ hcall
  cases hstep with
  | advanced => exact ⟨⟨ha, hgone⟩, rfl⟩
  | refused => exact absurd rfl hcall
  | idle => exact ⟨⟨ha, hgone⟩, rfl⟩
  | disposed => exact ⟨⟨ha, .inl rfl⟩, rfl⟩
  | looped h | pointed h => exact absurd ha (by simp [h])
  | stuck e h hd hb | opened t r h hd hb => simp [hd, hb] at hgone
  | resumed t t' r h hd hb hs =>
    obtain hb' : a.bridge = some b := hgone.resolve_left (by simp [hd])
    rw [hb] at hb'
    obtain rfl := Option.some.inj hb'
    exact absurd hterminal (by simpa [ScriptBridge.state] using hs)

end ActiveMacro

namespace CommandLine

open ActiveMacro
open Entrypoint (judge)

/-! ### A watched program -/

/-- What is seen of a macro that is worked through. -/
inductive Note where
  /-- The program printed this. -/
  | printed (bytes : ByteArray)
  /-- The engine that runs scripts was asked to do something. -/
  | touched (t : Touch)

/-- The bytes that the program printed. -/
def Note.printed? : Note → Option ByteArray
  | printed bytes => some bytes
  | touched _ => none

/-- The output that a coroutine gave. -/
def Note.output? : Note → Option Resumed
  | touched (.gave r) => some r
  | _ => none

/-- What the program printed, in order. -/
def printed (notes : List Note) : List ByteArray := notes.filterMap Note.printed?

/-- What the coroutine gave, in order. -/
def outputs (notes : List Note) : List Resumed := notes.filterMap Note.output?

/-- The lines for commands, the first one with the number behind `n`. -/
def numberedFrom (n : Nat) (cs : List Command) : List ByteArray :=
  cs.mapIdx fun i c ↦ (commandLine (n + i + 1) c).toUTF8

/-- The notes of a coroutine that gave some outputs: each command is printed as soon as it is
heard. -/
def told (parser : CommandParser) : Nat → List Resumed → List Note
  | _, [] => []
  | n, r :: rs =>
    match heard parser r with
    | some c =>
      .touched (.gave r) :: .printed (commandLine (n + 1) c).toUTF8 :: told parser (n + 1) rs
    | none => .touched (.gave r) :: told parser n rs

section Watching

variable {m : Type → Type} [Monad m] {T : Type}

/-- Reports as before. -/
def notedReport (report : Diagnostic → m Unit) (d : Diagnostic) : StateT (List Note) m Unit :=
  StateT.lift (report d)

/-- Prints, and writes it down. -/
def notedPrint (print : ByteArray → m Unit) (bytes : ByteArray) : StateT (List Note) m Unit :=
  fun notes ↦ do
    print bytes
    return ((), notes ++ [.printed bytes])

/-- Writes down what an engine is asked to do. -/
def notedEngine (engine : ScriptEngine m T) : ScriptEngine (StateT (List Note) m) T where
  start name source notes := do
    let t ← engine.start name source
    return (t, notes ++ [.touched .started])
  resume t notes := do
    let (r, t) ← engine.resume t
    return ((r, t), notes ++ [.touched (.gave r)])

end Watching

/-! ### Notes -/

variable {parser : CommandParser} {n : Nat} {c : Command} {cs : List Command} {r : Resumed}
  {rs rs' : List Resumed}

theorem numberedFrom_cons (n : Nat) (c : Command) (cs : List Command) :
    numberedFrom n (c :: cs) = (commandLine (n + 1) c).toUTF8 :: numberedFrom (n + 1) cs := by
  have hshift (i : Nat) : n + (i + 1) + 1 = n + 1 + i + 1 := by omega
  simp only [numberedFrom, List.mapIdx_cons, hshift, Nat.add_zero]

theorem length_numberedFrom (n : Nat) (cs : List Command) :
    (numberedFrom n cs).length = cs.length := List.length_mapIdx

@[simp]
theorem printed_touched (t : Touch) (notes : List Note) :
    printed (.touched t :: notes) = printed notes := rfl

@[simp]
theorem printed_printed (bytes : ByteArray) (notes : List Note) :
    printed (.printed bytes :: notes) = bytes :: printed notes := rfl

@[simp]
theorem outputs_gave (r : Resumed) (notes : List Note) :
    outputs (.touched (.gave r) :: notes) = r :: outputs notes := rfl

@[simp]
theorem outputs_printed (bytes : ByteArray) (notes : List Note) :
    outputs (.printed bytes :: notes) = outputs notes := rfl

theorem told_of_heard_none (n : Nat) (rs : List Resumed) (h : heard parser r = none) :
    told parser n (r :: rs) = .touched (.gave r) :: told parser n rs := by
  rw [told, h]

theorem told_of_heard_some (n : Nat) (rs : List Resumed) (h : heard parser r = some c) :
    told parser n (r :: rs) =
      .touched (.gave r) :: .printed (commandLine (n + 1) c).toUTF8 :: told parser (n + 1) rs := by
  rw [told, h]

theorem printed_told (n : Nat) (rs : List Resumed) :
    printed (told parser n rs) = numberedFrom n (rs.filterMap (heard parser)) := by
  induction rs generalizing n with
  | nil => rfl
  | cons r rs ih =>
    cases h : heard parser r with
    | none => rw [told_of_heard_none n rs h, printed_touched, ih, List.filterMap_cons_none h]
    | some c =>
      rw [told_of_heard_some n rs h, printed_touched, printed_printed, ih,
        List.filterMap_cons_some h, numberedFrom_cons]

theorem outputs_told (n : Nat) (rs : List Resumed) : outputs (told parser n rs) = rs := by
  induction rs generalizing n with
  | nil => rfl
  | cons r rs ih =>
    cases h : heard parser r with
    | none => rw [told_of_heard_none n rs h, outputs_gave, ih]
    | some c => rw [told_of_heard_some n rs h, outputs_gave, outputs_printed, ih]

/-! ### One request -/

section Watched

variable {m : Type → Type} [Monad m] {T : Type} {report : Diagnostic → m Unit}
  {print : ByteArray → m Unit} {engine : ScriptEngine m T} {a : ActiveMacro T}

/-- What the program does with the answer to a request. -/
def goOn (report : Diagnostic → m Unit) (print : ByteArray → m Unit) (engine : ScriptEngine m T)
    (fuel n : Nat) : Outcome (Option Command) × ActiveMacro T → m (Outcome Nat × ActiveMacro T)
  | (.error e, a) => return (.error e, a)
  | (.ok (some c), a) => do
    print (commandLine (n + 1) c).toUTF8
    printSteps report print engine fuel (n + 1) a.advance
  | (.ok none, a) =>
    if a.isRunningScript then printSteps report print engine fuel n a else return (.ok n, a)

theorem printSteps_succ (fuel n : Nat) (a : ActiveMacro T) :
    printSteps report print engine (fuel + 1) n a =
      a.currentStep report engine >>= goOn report print engine fuel n := rfl

variable [LawfulMonad m]

@[simp]
theorem run_notedReport (d : Diagnostic) (notes : List Note) :
    (notedReport report d).run notes = (fun _ ↦ ((), notes)) <$> report d := by
  simp [notedReport]

@[simp]
theorem run_notedPrint (bytes : ByteArray) (notes : List Note) :
    (notedPrint print bytes).run notes =
      (fun _ ↦ ((), notes ++ [.printed bytes])) <$> print bytes := by
  rw [← bind_pure_comp]
  rfl

@[simp]
theorem run_notedEngine_start (name source : String) (notes : List Note) :
    ((notedEngine engine).start name source).run notes =
      (fun t ↦ (t, notes ++ [.touched .started])) <$> engine.start name source := by
  rw [← bind_pure_comp]
  rfl

@[simp]
theorem run_notedEngine_resume (t : T) (notes : List Note) :
    ((notedEngine engine).resume t).run notes =
      (fun r ↦ (r, notes ++ [.touched (.gave r.1)])) <$> engine.resume t := by
  rw [← bind_pure_comp]
  rfl

theorem run_remark_notedReport (line : Outcome (Option String)) (notes : List Note) :
    (remark (notedReport report) a line).run notes =
      (fun _ ↦ ((), notes)) <$> remark report a line := by
  rcases line with _ | _ | line
  · simp [remark]
  · simp [remark]
  · cases hc : a.parser.parseLine line <;> simp [remark, hc]

/-- The coroutine runs, and the program goes on with its output. -/
theorem run_advanceScript_goOn (t : T) (fuel n : Nat) (notes : List Note) :
    (advanceScript (notedReport report) (notedEngine engine) a t >>=
        goOn (notedReport report) (notedPrint print) (notedEngine engine) fuel n).run notes = (do
      let (r, t) ← engine.resume t
      remark report a (judge r).1
      (goOn (notedReport report) (notedPrint print) (notedEngine engine) fuel n
        (answerTo a.parser r, a.afterOutput t r)).run (notes ++ [.touched (.gave r)])) := by
  simp [advanceScript, run_remark_notedReport]

/-! ### Watching changes nothing -/

theorem fst_run_advanceScript (t : T) (notes : List Note) :
    Prod.fst <$> (advanceScript (notedReport report) (notedEngine engine) a t).run notes =
      advanceScript report engine a t := by
  simp [advanceScript, run_remark_notedReport]

theorem fst_run_currentStep (a : ActiveMacro T) (notes : List Note) :
    Prod.fst <$> (a.currentStep (notedReport report) (notedEngine engine)).run notes =
      a.currentStep report engine := by
  rcases h : a.node.isScript
  · rw [currentStep_of_native h, currentStep_of_native h, StateT.run_pure, map_pure]
  · rcases a.exists_bridge_cases with hd | ⟨hd, hb | ⟨b, hb, hidle⟩ | ⟨t, s, hb, hs⟩⟩
    · rw [currentStep_of_disposed h hd, currentStep_of_disposed h hd, StateT.run_pure, map_pure]
    · rw [currentStep_of_unopened h hd hb, currentStep_of_unopened h hd hb, StateT.run_bind,
        run_notedEngine_start, bind_map_left, map_bind]
      refine bind_congr fun t ↦ ?_
      cases t with
      | error e => rw [StateT.run_pure, map_pure]
      | ok t => exact fst_run_advanceScript t _
    · rw [currentStep_of_idle h hd hb hidle, currentStep_of_idle h hd hb hidle]
      simp
    · rw [currentStep_of_live h hd hb hs, currentStep_of_live h hd hb hs, fst_run_advanceScript]

theorem fst_run_printSteps (fuel n : Nat) (a : ActiveMacro T) (notes : List Note) :
    Prod.fst <$> (printSteps (notedReport report) (notedPrint print) (notedEngine engine) fuel n
        a).run notes = printSteps report print engine fuel n a := by
  induction fuel generalizing n a notes with
  | zero => exact map_pure _ _
  | succ fuel ih =>
    have hgo (x : Outcome (Option Command) × ActiveMacro T) (notes : List Note) :
        Prod.fst <$> (goOn (notedReport report) (notedPrint print) (notedEngine engine) fuel n
          x).run notes = goOn report print engine fuel n x := by
      obtain ⟨_ | _ | c, a⟩ := x
      · exact map_pure _ _
      · rw [goOn, goOn]
        split
        · exact ih n a notes
        · exact map_pure _ _
      · simp [goOn, ih]
    have hstep : Prod.fst <$> (a.currentStep (notedReport report) (notedEngine engine)).run notes =
        a.currentStep report engine := fst_run_currentStep a notes
    rw [printSteps_succ, printSteps_succ, StateT.run_bind, map_bind]
    simp only [hgo]
    rw [← hstep, bind_map_left]

/-! ### Macros in the command language -/

/-- A macro in the command language is printed to its last step. -/
theorem always_printSteps_native {fuel n : Nat} (i : Nat) (h : a.node.isScript = false)
    (hbridge : a.bridge = none) (hcursor : a.stepIndex = i) (hi : i ≤ a.steps.length)
    (hfuel : a.steps.length < i + fuel) (notes : List Note) :
    Always (fun r ↦ r.1.1 = .ok (n + (a.steps.drop i).length) ∧
        r.1.2 = { a with stepIndex := a.steps.length } ∧
        r.2 = notes ++ (numberedFrom n (a.steps.drop i)).map .printed)
      ((printSteps (notedReport report) (notedPrint print) (notedEngine engine) fuel n a).run
        notes) := by
  induction fuel generalizing n a i notes with
  | zero => omega
  | succ fuel ih =>
    have hstep : a.stepAtCursor = a.steps[i]? := by
      rw [stepAtCursor, hcursor, if_pos (Int.natCast_nonneg i), Int.toNat_natCast]
    rw [printSteps_succ, currentStep_of_native h, pure_bind, hstep]
    rcases Nat.lt_or_eq_of_le hi with hlt | rfl
    · rw [List.getElem?_eq_getElem hlt, List.drop_eq_getElem_cons hlt, numberedFrom_cons]
      simp only [goOn, StateT.run_bind, run_notedPrint, bind_map_left]
      have hadvanced : a.advance.stepIndex = (i + 1 : Nat) := by
        rw [advance, hcursor, Int.natCast_succ]
      have hsteps : a.advance.steps = a.steps := rfl
      have hrest := ih (n := n + 1) (a := a.advance) (i + 1) h hbridge hadvanced hlt
        (by rw [hsteps]; omega) (notes ++ [.printed (commandLine (n + 1) a.steps[i]).toUTF8])
      rw [hsteps] at hrest
      refine (Always.trivially _).bind fun _ _ ↦ hrest.mono fun r hr ↦ ?_
      obtain ⟨houtcome, hfinal, hnotes⟩ := hr
      refine ⟨?_, hfinal, ?_⟩
      · rw [houtcome, List.length_cons]
        congr 1
        omega
      · rw [hnotes, List.map_cons, List.append_assoc, List.singleton_append]
    · have hrunning : a.isRunningScript = false := by rw [isRunningScript, hbridge]
      rw [List.getElem?_eq_none (Nat.le_refl _), List.drop_length]
      simp only [goOn, hrunning, Bool.false_eq_true, if_false, StateT.run_pure]
      refine .pure ⟨rfl, ?_, (List.append_nil _).symm⟩
      rw [← hcursor]

/-! ### Scripts -/

/-- How it ends with a script that gave some outputs, at most `fuel`, behind `n` commands. -/
inductive Ending (parser : CommandParser) (fuel n : Nat) :
    List Resumed → Outcome Nat → ActiveMacro T → Prop
  /-- The coroutine has come to an end. -/
  | ended (rs : List Resumed) (a : ActiveMacro T) {b : ScriptBridge T} (hb : a.bridge = some b)
    (hterminal : b.state.isTerminal = true) :
    Ending parser fuel n rs (.ok (n + (rs.filterMap (heard parser)).length)) a
  /-- The last output is an error. -/
  | failed (rs : List Resumed) (r : Resumed) (e : EngineError) (a : ActiveMacro T)
    (h : (judge r).1 = .error e) : Ending parser fuel n (rs ++ [r]) (.error e) a
  | cutOff (rs : List Resumed) (a : ActiveMacro T) (h : rs.length = fuel) :
    Ending parser fuel n rs (.error outOfSteps) a

theorem Ending.cons {fuel : Nat} {o : Outcome Nat}
    (h : Ending parser fuel (n + (heard parser r).toList.length) rs o a) :
    Ending parser (fuel + 1) n (r :: rs) o a := by
  cases h with
  | ended _ _ hb hterminal =>
    have hcount : n + (heard parser r).toList.length + (rs.filterMap (heard parser)).length =
        n + ((r :: rs).filterMap (heard parser)).length := by
      cases hr : heard parser r with
      | none => rw [List.filterMap_cons_none hr]; rfl
      | some c => rw [List.filterMap_cons_some hr]; simp; omega
    rw [hcount]
    exact .ended _ _ hb hterminal
  | failed rs r' e _ he => exact .failed (r :: rs) r' e _ he
  | cutOff _ _ hlength => exact .cutOff _ _ (by rw [List.length_cons, hlength])

/-- What holds of a script that gave the outputs `rs` to the program. -/
structure Worked (fuel n : Nat) (a : ActiveMacro T) (notes : List Note) (rs : List Resumed)
    (r : (Outcome Nat × ActiveMacro T) × List Note) : Prop where
  notes : r.2 = notes ++ told a.parser n rs
  steps : r.1.2.steps = a.steps ++ rs.filterMap (heard a.parser)
  node : r.1.2.node = a.node
  ending : Ending a.parser fuel n rs r.1.1 r.1.2

/-- A request is answered with the error or the command of the output. -/
theorem answerTo_cases (parser : CommandParser) (r : Resumed) :
    (∃ e, (judge r).1 = .error e ∧ answerTo parser r = .error e ∧ heard parser r = none) ∨
      answerTo parser r = .ok (heard parser r) := by
  rcases r with (_ | ⟨_ | _, _⟩) | (_ | ⟨_ | _, _⟩) | _
  case yielded.cons.other | returned.cons.other | failed => exact .inl ⟨_, rfl, rfl, rfl⟩
  all_goals exact .inr rfl

theorem isRunningScript_afterOutput (t : T) (r : Resumed) :
    (a.afterOutput t r).isRunningScript = !(judge r).2.isTerminal := rfl

theorem Worked.cons {fuel : Nat} {a' : ActiveMacro T} {notes notes' : List Note}
    {o : (Outcome Nat × ActiveMacro T) × List Note}
    (h : Worked fuel (n + (heard a.parser r).toList.length) a' notes' rs o)
    (hparser : a'.parser = a.parser) (hnode : a'.node = a.node)
    (hsteps : a'.steps = a.steps ++ (heard a.parser r).toList)
    (hnotes : notes' ++ told a.parser (n + (heard a.parser r).toList.length) rs =
      notes ++ told a.parser n (r :: rs)) :
    Worked (fuel + 1) n a notes (r :: rs) o where
  notes := by rw [h.notes, hparser, hnotes]
  steps := by
    rw [h.steps, hparser, hsteps, List.append_assoc]
    cases hr : heard a.parser r with
    | none => rw [List.filterMap_cons_none hr]; rfl
    | some c => rw [List.filterMap_cons_some hr]; rfl
  node := by rw [h.node, hnode]
  ending := (hparser ▸ h.ending).cons

/-- The program behind an output. -/
theorem always_goOn {fuel n : Nat} {notes : List Note} (t : T) (r : Resumed)
    (ih : ∀ (n : Nat) (a' : ActiveMacro T) (s : EntrypointState) (notes : List Note),
      a'.node.isScript = true → a'.disposed = false → a'.bridge = some ⟨some ⟨some t, s⟩⟩ →
      Always (fun o ↦ ∃ rs, Worked fuel n a' notes rs o)
        ((printSteps (notedReport report) (notedPrint print) (notedEngine engine) fuel n a').run
          notes))
    (h : a.node.isScript = true) (hd : a.disposed = false) :
    Always (fun o ↦ ∃ rs, Worked (fuel + 1) n a notes (r :: rs) o)
      ((goOn (notedReport report) (notedPrint print) (notedEngine engine) fuel n
        (answerTo a.parser r, a.afterOutput t r)).run (notes ++ [.touched (.gave r)])) := by
  rcases answerTo_cases a.parser r with ⟨e, he, hanswer, hheard⟩ | hanswer
  · rw [hanswer, goOn, StateT.run_pure]
    refine .pure ⟨[], ?_, ?_, rfl, .failed [] r e _ he⟩
    · rw [told_of_heard_none n [] hheard]
      rfl
    · simp [afterOutput, hheard]
  · rw [hanswer]
    cases hheard : heard a.parser r with
    | some c =>
      have hcount : n + (heard a.parser r).toList.length = n + 1 := by rw [hheard]; rfl
      simp only [goOn, StateT.run_bind, run_notedPrint, bind_map_left]
      refine (Always.trivially _).bind fun _ _ ↦ ?_
      refine (ih (n + 1) (a.afterOutput t r).advance (judge r).2 _ h hd rfl).mono ?_
      rintro o ⟨rs, ho⟩
      rw [← hcount] at ho
      refine ⟨rs, ho.cons rfl rfl rfl ?_⟩
      rw [told_of_heard_some n rs hheard, hcount]
      simp
    | none =>
      have hcount : n + (heard a.parser r).toList.length = n := by rw [hheard]; rfl
      by_cases hterminal : (judge r).2.isTerminal = true
      · simp only [goOn, isRunningScript_afterOutput, hterminal, Bool.not_true,
          Bool.false_eq_true, if_false, StateT.run_pure]
        have hended : Ending a.parser (fuel + 1) n [r]
            (.ok (n + ([r].filterMap (heard a.parser)).length)) (a.afterOutput t r) :=
          .ended [r] _ rfl hterminal
        refine .pure ⟨[], ?_, ?_, rfl, ?_⟩
        · rw [told_of_heard_none n [] hheard]
          rfl
        · simp [afterOutput, hheard]
        · simpa [hheard] using hended
      · rw [Bool.not_eq_true] at hterminal
        simp only [goOn, isRunningScript_afterOutput, hterminal, Bool.not_false, if_true]
        refine (ih n (a.afterOutput t r) (judge r).2 _ h hd rfl).mono ?_
        rintro o ⟨rs, ho⟩
        rw [← hcount] at ho
        refine ⟨rs, ho.cons rfl rfl rfl ?_⟩
        rw [told_of_heard_none n rs hheard, hcount, List.append_assoc, List.singleton_append]

theorem always_printSteps_script {fuel n : Nat} (t : T) (s : EntrypointState) (notes : List Note)
    (h : a.node.isScript = true) (hd : a.disposed = false)
    (hb : a.bridge = some ⟨some ⟨some t, s⟩⟩) :
    Always (fun o ↦ ∃ rs, Worked fuel n a notes rs o)
      ((printSteps (notedReport report) (notedPrint print) (notedEngine engine) fuel n a).run
        notes) := by
  induction fuel generalizing n a t s notes with
  | zero =>
    refine .pure ⟨[], (List.append_nil _).symm, (List.append_nil _).symm, rfl, ?_⟩
    exact .cutOff [] a rfl
  | succ fuel ih =>
    rw [printSteps_succ]
    by_cases hterminal : s.isTerminal = true
    · have hrunning : a.isRunningScript = false := by
        rw [isRunningScript, hb]
        simp [ScriptBridge.state, hterminal]
      rw [currentStep_of_idle h hd hb (.inl hterminal)]
      simp only [goOn, StateT.run_bind, bind_assoc, pure_bind, run_notedReport, bind_map_left,
        hrunning, Bool.false_eq_true, if_false, StateT.run_pure]
      refine (Always.trivially _).bind fun _ _ ↦ .pure ⟨[], ?_, ?_, rfl, .ended [] a hb hterminal⟩
      · exact (List.append_nil _).symm
      · exact (List.append_nil _).symm
    · rw [Bool.not_eq_true] at hterminal
      rw [currentStep_of_live h hd hb hterminal, run_advanceScript_goOn]
      refine (Always.trivially _).bind fun r _ ↦ (Always.trivially _).bind fun _ _ ↦ ?_
      refine (always_goOn r.2 r.1 (fun n a' s notes ↦ ih r.2 s notes) h hd).mono ?_
      rintro o ⟨rs, ho⟩
      exact ⟨r.1 :: rs, ho⟩

/-- A script that cannot be started has no commands; any other one is listened to until it ends. -/
theorem always_printSteps_unopened {fuel : Nat} (h : a.node.isScript = true)
    (hd : a.disposed = false) (hb : a.bridge = none) :
    Always (fun o ↦ (∃ e, o = ((.error e, a), [.touched .started])) ∨
        ∃ rs, Worked (fuel + 1) 0 a [.touched .started] rs o)
      ((printSteps (notedReport report) (notedPrint print) (notedEngine engine) (fuel + 1) 0 a).run
        []) := by
  rw [printSteps_succ, currentStep_of_unopened h hd hb, bind_assoc, StateT.run_bind,
    run_notedEngine_start, bind_map_left]
  refine (Always.trivially _).bind fun t _ ↦ ?_
  cases t with
  | error e =>
    rw [pure_bind, goOn, StateT.run_pure]
    exact .pure (.inl ⟨e, rfl⟩)
  | ok t =>
    dsimp only
    rw [run_advanceScript_goOn]
    refine (Always.trivially _).bind fun r _ ↦ (Always.trivially _).bind fun _ _ ↦ ?_
    refine (always_goOn r.2 r.1 (fun n a' s notes ↦ always_printSteps_script r.2 s notes) h
      hd).mono ?_
    rintro o ⟨rs, ho⟩
    exact .inr ⟨r.1 :: rs, ho⟩

end Watched

end CommandLine

end MacroStream
