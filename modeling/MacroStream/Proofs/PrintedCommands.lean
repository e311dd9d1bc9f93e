import MacroStream.Proofs.PrintedSteps
import MacroStream.Proofs.Script.Installation
import MacroStream.Proofs.ShownCommands

/-!
# Printed commands

What comes of running the program with a macro file: what it prints, when it succeeds, and why it
fails. The program is watched as before, from the file that it reads to the last report.

`Record.Lawful` is what holds of every macro that could be read. The commands in it are those of the
text or those that the coroutine gave. What a script writes to the standard output by itself is not
among the notes, whether it does so while it is started, while its coroutine runs, or in a
finalizer, of which none is modelled (`Script.Heap`). `printed_besides` is a script whose output is
there nevertheless.
-/

namespace MacroStream

namespace CommandLine

open ActiveMacro
open Entrypoint (judge)
open Script (stepLimit)

/-! ### A watched program -/

/-- What came of a file. -/
structure Record (T : Type) where
  /-- The macro in the file, if it could be read. -/
  node : Option MacroNode
  outcome : Outcome Nat
  notes : List Note
  /-- The macro as it was left, if it could be prepared. -/
  final : Option (ActiveMacro T)

section Watching

variable {m : Type → Type} [Monad m] {T : Type}

/-- Works through a macro while it is watched. -/
def watchMacro (report : Diagnostic → m Unit) (print : ByteArray → m Unit)
    (engine : ScriptEngine m T) (craft : CraftLoopConfig) (node : MacroNode) : m (Record T) := do
  match ← ActiveMacro.start report craft lineParser node with
  | .error e => return ⟨some node, .error e, [], none⟩
  | .ok a =>
    let ((outcome, a), notes) ←
      (printSteps (notedReport report) (notedPrint print) (notedEngine engine)
        (a.steps.length + stepLimit) 0 a).run []
    match outcome with
    | .error _ => pure ()
    | .ok _ => do
      let _ ← a.dispose report
    return ⟨some node, outcome, notes, some a⟩

/-- Runs the macro in a file while it is watched. -/
def watchFile (p : Platform m) (logger : Logger) (c : Config) (file : Path) :
    m (Record Script.Session) := do
  match ← p.files.readText file with
  | .error e => return ⟨none, .error (.io e.message), [], none⟩
  | .ok contents => do
    let node := macroOfFile file contents
    let p := { p with report := { logger with span := some (macroSpan node.name) }.report p }
    let store ← siblingStore p file
    let host : ScriptHost m := { ScriptHost.empty with store := some store }
    watchMacro p.report p.print (Script.macroEngine p c.scripting host) c.craftLoop node

end Watching

/-! ### What holds of every run -/

/-- The commands of a macro: those of its text, or those that its coroutine gave. -/
def stream (craft : CraftLoopConfig) (node : MacroNode) (notes : List Note) : List Command :=
  if node.isScript then (outputs notes).filterMap (heard lineParser)
  else (initialSteps craft lineParser node).toOption.getD []

/-- Why working through a macro failed, and what was seen of it. -/
inductive Fails (craft : CraftLoopConfig) (node : MacroNode) : EngineError → List Note → Prop
  /-- The text is refused, and nothing happens. -/
  | refused (e : EngineError) (h : initialSteps craft lineParser node = .error e) :
    Fails craft node e []
  /-- The script cannot be started. -/
  | unstarted (e : EngineError) (h : node.isScript = true) :
    Fails craft node e [.touched .started]
  /-- The last output of the coroutine is an error. -/
  | failed (e : EngineError) (rs : List Resumed) (r : Resumed) (h : node.isScript = true)
    (hr : (judge r).1 = .error e) :
    Fails craft node e (.touched .started :: told lineParser 0 (rs ++ [r]))
  | cutOff (rs : List Resumed) (h : node.isScript = true) (hrs : rs.length = stepLimit) :
    Fails craft node outOfSteps (.touched .started :: told lineParser 0 rs)

/-- What holds of a macro that is worked through. -/
structure Record.Lawful {T : Type} (craft : CraftLoopConfig) (node : MacroNode) (r : Record T) :
    Prop where
  /-- The program prints the commands in order, numbered from 1, and nothing else. -/
  printed : printed r.notes = numberedFrom 0 (stream craft node r.notes)
  /-- Each command of a script is printed before its coroutine runs on. -/
  told : node.isScript = true → r.notes = .touched .started :: told lineParser 0 (outputs r.notes)
  /-- Without an error the macro is worked through to its end. -/
  ok : ∀ n, r.outcome = .ok n →
    ∃ a, r.final = some a ∧ a.steps = stream craft node r.notes ∧ a.steps.length = n ∧
      (CommandLine.printed r.notes).length = n ∧ a.Spent
  error : ∀ e, r.outcome = .error e → Fails craft node e r.notes
  /-- A text that is refused is an error. -/
  refused : ∀ e, initialSteps craft lineParser node = .error e →
    r.outcome = .error e ∧ r.notes = []

section Macros

variable {m : Type → Type} [Monad m] [LawfulMonad m] {T : Type} {report : Diagnostic → m Unit}
  {print : ByteArray → m Unit} {engine : ScriptEngine m T} {craft : CraftLoopConfig}
  {node : MacroNode}

theorem stream_of_native {steps : List Command} (h : node.isScript = false)
    (hsteps : initialSteps craft lineParser node = .ok steps) (notes : List Note) :
    stream craft node notes = steps := by
  rw [stream, h, hsteps]
  rfl

theorem stream_of_script (h : node.isScript = true) (notes : List Note) :
    stream craft node notes = (outputs notes).filterMap (heard lineParser) := by
  rw [stream, if_pos h]

theorem initialSteps_of_script (h : node.isScript = true) :
    initialSteps craft lineParser node = .ok [] := by
  rw [initialSteps, if_pos h]

/-- The macro that is refused. -/
theorem lawful_refused {e : EngineError} (h : initialSteps craft lineParser node = .error e) :
    (⟨some node, .error e, [], none⟩ : Record T).Lawful craft node := by
  have hscript : node.isScript = false := by
    by_contra hscript
    rw [initialSteps_of_script (by simpa using hscript)] at h
    cases h
  have hstream : stream craft node [] = [] := by
    rw [stream, hscript, h]
    rfl
  refine ⟨?_, fun hs ↦ ?_, nofun, ?_, ?_⟩
  · rw [hstream]
    rfl
  · rw [hscript] at hs
    cases hs
  · rintro _ ⟨⟩
    exact .refused e h
  · intro e' he'
    rw [h] at he'
    cases he'
    exact ⟨rfl, rfl⟩

/-- A macro in the command language that is not refused. -/
theorem lawful_native {steps : List Command} {a : ActiveMacro T} (h : node.isScript = false)
    (hsteps : initialSteps craft lineParser node = .ok steps) (ha : a.steps = steps)
    (hspent : a.Spent) :
    (⟨some node, .ok steps.length, (numberedFrom 0 steps).map .printed, some a⟩ :
      Record T).Lawful craft node := by
  have hprinted : printed ((numberedFrom 0 steps).map .printed) = numberedFrom 0 steps := by
    rw [printed, List.filterMap_map]
    exact List.filterMap_some
  refine ⟨?_, fun hs ↦ ?_, ?_, nofun, fun e he ↦ ?_⟩
  · rw [stream_of_native h hsteps, hprinted]
  · rw [h] at hs
    cases hs
  · rintro _ ⟨⟩
    refine ⟨a, rfl, ?_, ?_, ?_, hspent⟩
    · rw [ha, stream_of_native h hsteps]
    · rw [ha]
    · rw [hprinted, length_numberedFrom]
  · rw [hsteps] at he
    cases he

/-- A script that cannot be started. -/
theorem lawful_unstarted {a : ActiveMacro T} (h : node.isScript = true) (e : EngineError) :
    (⟨some node, .error e, [.touched .started], some a⟩ : Record T).Lawful craft node where
  printed := by
    rw [stream_of_script h]
    rfl
  told _ := rfl
  ok := nofun
  error := by
    rintro _ ⟨⟩
    exact .unstarted e h
  refused e he := by
    rw [initialSteps_of_script h] at he
    cases he

/-- A script that was listened to. -/
theorem lawful_worked {rs : List Resumed} {o : Outcome Nat} {a : ActiveMacro T}
    {notes : List Note} (h : node.isScript = true)
    (hworked : Worked stepLimit 0 (unopened lineParser node) [.touched .started] rs
      ((o, a), notes)) :
    (⟨some node, o, notes, some a⟩ : Record T).Lawful craft node := by
  obtain ⟨hnotes, hsteps, hnode, hending⟩ := hworked
  obtain rfl : notes = .touched .started :: told lineParser 0 rs := hnotes
  have houtputs : outputs (.touched .started :: told lineParser 0 rs) = rs := outputs_told 0 rs
  have hstream : stream craft node (.touched .started :: told lineParser 0 rs) =
      rs.filterMap (heard lineParser) := by rw [stream_of_script h, houtputs]
  have hprinted : printed (.touched .started :: told lineParser 0 rs) =
      numberedFrom 0 (rs.filterMap (heard lineParser)) := printed_told 0 rs
  refine ⟨?_, fun _ ↦ ?_, ?_, ?_, ?_⟩
  · rw [hstream, hprinted]
  · rw [houtputs]
  · rintro n hn
    cases hending with
    | ended _ _ hb hterminal =>
      cases hn
      refine ⟨a, rfl, ?_, ?_, ?_, ?_⟩
      · rw [hstream, hsteps]
        rfl
      · rw [hsteps]
        exact (Nat.zero_add _).symm
      · rw [hprinted, length_numberedFrom]
        exact (Nat.zero_add _).symm
      · refine spent_of_terminal ?_ hb hterminal
        rw [hnode]
        exact h
    | failed => cases hn
    | cutOff => cases hn
  · rintro e he
    cases hending with
    | ended => cases he
    | failed rs r e' _ hr =>
      cases he
      exact .failed e rs r h hr
    | cutOff rs _ hrs =>
      cases he
      exact .cutOff rs h hrs
  · intro e he
    rw [initialSteps_of_script h] at he
    cases he

/-- The macro as it is before it runs. -/
def prepared (node : MacroNode) (steps : List Command) : ActiveMacro T :=
  { unopened lineParser node with steps }

omit [LawfulMonad m] in
theorem start_eq (report : Diagnostic → m Unit) (craft : CraftLoopConfig) (node : MacroNode) :
    ActiveMacro.start (T := T) report craft lineParser node =
      match initialSteps craft lineParser node with
      | .error e => pure (.error e)
      | .ok steps => do
        report (queued node steps.length (Text.splitLines node.contents).length)
        return .ok (prepared node steps) := by
  rw [ActiveMacro.start, prepare]
  cases initialSteps craft lineParser node <;> rfl

theorem always_watchMacro (report : Diagnostic → m Unit) (print : ByteArray → m Unit)
    (engine : ScriptEngine m T) (craft : CraftLoopConfig) (node : MacroNode) :
    Always (fun r ↦ r.node = some node ∧ r.Lawful craft node)
      (watchMacro report print engine craft node) := by
  rw [watchMacro, start_eq]
  cases hsteps : initialSteps craft lineParser node with
  | error e =>
    rw [pure_bind]
    exact .pure ⟨rfl, lawful_refused hsteps⟩
  | ok steps =>
    simp only [bind_assoc, pure_bind]
    refine (Always.trivially _).bind fun _ _ ↦ ?_
    suffices h : Always (fun r ↦ Record.Lawful craft node ⟨some node, r.1.1, r.2, some r.1.2⟩)
        ((printSteps (notedReport report) (notedPrint print) (notedEngine engine)
          (steps.length + stepLimit) 0 (prepared node steps)).run []) by
      refine h.bind fun ⟨⟨o, a⟩, notes⟩ hlawful ↦ ?_
      cases o with
      | error e => exact .pure ⟨rfl, hlawful⟩
      | ok n => exact (Always.trivially _).bind fun _ _ ↦ .pure ⟨rfl, hlawful⟩
    cases hscript : node.isScript with
    | false =>
      have hfuel : steps.length < 0 + (steps.length + stepLimit) := by rw [stepLimit]; omega
      refine (always_printSteps_native 0 hscript rfl rfl (Nat.zero_le _) hfuel []).mono ?_
      rintro ⟨⟨o, a⟩, notes⟩ ⟨rfl, rfl, rfl⟩
      have hspent : ({ prepared node steps with stepIndex := steps.length } :
          ActiveMacro T).Spent := spent_of_native hscript (Int.le_refl _)
      rw [List.drop_zero, Nat.zero_add, List.nil_append]
      exact lawful_native hscript hsteps rfl hspent
    | true =>
      rw [initialSteps_of_script hscript] at hsteps
      obtain rfl : [] = steps := Except.ok.inj hsteps
      refine (always_printSteps_unopened hscript rfl rfl).mono ?_
      rintro ⟨⟨o, a⟩, notes⟩ (⟨e, he⟩ | ⟨rs, hworked⟩)
      · cases he
        exact lawful_unstarted hscript e
      · exact lawful_worked hscript hworked

theorem outcome_watchMacro (report : Diagnostic → m Unit) (print : ByteArray → m Unit)
    (engine : ScriptEngine m T) (craft : CraftLoopConfig) (node : MacroNode) :
    Record.outcome <$> watchMacro report print engine craft node =
      runMacro report print engine craft node := by
  rw [watchMacro, runMacro, map_bind]
  refine bind_congr fun a ↦ ?_
  cases a with
  | error e => exact map_pure _ _
  | ok a =>
    have hsame : Prod.fst <$> (printSteps (notedReport report) (notedPrint print)
        (notedEngine engine) (a.steps.length + stepLimit) 0 a).run [] =
          printSteps report print engine (a.steps.length + stepLimit) 0 a :=
      fst_run_printSteps _ 0 a []
    dsimp only
    rw [← hsame, bind_map_left, map_bind]
    refine bind_congr fun r ↦ ?_
    obtain ⟨⟨_ | n, a⟩, notes⟩ := r
    · exact map_pure _ _
    · simp

end Macros

/-! ### The program -/

section Program

variable {m : Type → Type} [Monad m] [LawfulMonad m]

/-- What is said at the end. -/
def closing : Outcome Nat → Diagnostic
  | .ok n => ⟨.info, .program, "Macro finished after " ++ Nat.repr n ++ " steps", []⟩
  | .error e => ⟨.error, .program, e.message, []⟩

/-- What holds of a file that was run. -/
structure Record.LawfulFile {T : Type} (craft : CraftLoopConfig) (file : Path) (r : Record T) :
    Prop where
  unread : r.node = none → ∃ message, r.outcome = .error (.io message) ∧ r.notes = []
  read : ∀ node, r.node = some node →
    (∃ contents, node = macroOfFile file contents) ∧ r.Lawful craft node

theorem always_watchFile (p : Platform m) (logger : Logger) (c : Config) (file : Path) :
    Always (fun r ↦ r.LawfulFile c.craftLoop file) (watchFile p logger c file) := by
  rw [watchFile]
  refine (Always.trivially _).bind fun contents _ ↦ ?_
  cases contents with
  | error e => exact .pure ⟨fun _ ↦ ⟨_, rfl, rfl⟩, nofun⟩
  | ok contents =>
    refine (Always.trivially _).bind fun store _ ↦ ?_
    refine (always_watchMacro _ _ _ c.craftLoop (macroOfFile file contents)).mono ?_
    rintro r ⟨hnode, hlawful⟩
    refine ⟨fun hnone ↦ ?_, fun node hsome ↦ ?_⟩
    · rw [hnode] at hnone
      cases hnone
    · obtain rfl : macroOfFile file contents = node := Option.some.inj (hnode.symm.trans hsome)
      exact ⟨⟨contents, rfl⟩, hlawful⟩

theorem outcome_watchFile (p : Platform m) (logger : Logger) (c : Config) (file : Path) :
    Record.outcome <$> watchFile p logger c file = runFile p logger c file := by
  rw [watchFile, runFile, map_bind]
  refine bind_congr fun contents ↦ ?_
  cases contents with
  | error e => exact map_pure _ _
  | ok contents =>
    dsimp only
    rw [map_bind]
    exact bind_congr fun store ↦ outcome_watchMacro _ _ _ _ _

/-- **The program prints the commands.** With settings that are in order, whatever stands in the
file and next to it and whatever the coroutine of a script does: what the program itself prints are
the commands of the macro, in order and numbered from 1. It succeeds exactly if the macro is worked
through without an error, and then no command is left and as many were printed as it has steps; an
error leaves the commands printed that came before it. -/
theorem runWith_watched (p : Platform m) (logger : Logger) (c : Config) (file : String)
    (hc : c.validate = .ok ()) :
    Always (fun r ↦ r.LawfulFile c.craftLoop ⟨file⟩) (watchFile p logger c ⟨file⟩) ∧
    runWith p logger c file = (do
      let r ← watchFile p logger c ⟨file⟩
      logger.report p (closing r.outcome)
      return r.outcome.isOk) := by
  refine ⟨always_watchFile p logger c ⟨file⟩, ?_⟩
  rw [runWith, hc]
  dsimp only
  rw [← outcome_watchFile, bind_map_left]
  refine bind_congr fun r ↦ ?_
  cases r.outcome <;> rfl

/-- A platform with the same text in every file and nothing next to it, on which all that is printed
goes to `output`. -/
def sameText (output : ByteArray → m Unit) (text : String) : Platform m where
  files :=
    { kind? := fun _ ↦ pure (some .file)
      read := fun _ ↦ pure (.ok text.toUTF8)
      list := fun _ ↦ pure (.ok [])
      write := fun _ _ _ ↦ pure (.error .denied)
      makeDirectory := fun _ ↦ pure (.error .denied)
      remove := fun _ ↦ pure (.error .denied)
      rename := fun _ _ ↦ pure (.error .denied) }
  report _ := pure ()
  print := output
  printForScript bytes _ := output bytes
  complain _ := pure ()
  environment _ := pure none
  time := pure 0
  clock := pure 0
  exit _ := pure ()

/-- A platform of this kind that prints nothing. -/
def silent (text : String) : Platform Id := sameText (fun _ ↦ ()) text

/-- Two commands, and a line between them that is skipped. -/
theorem runWith_watched_two :
    ({} : Config).validate = .ok () ∧
    ∃ r : Record Script.Session,
      r = Id.run (watchFile (silent "/echo a\n\n/echo b") ⟨⟨[]⟩, none, none⟩ {} ⟨"m.txt"⟩) ∧
      printed r.notes = ["   1  /echo a\n".toUTF8, "   2  /echo b\n".toUTF8] ∧
      Id.run (runWith (silent "/echo a\n\n/echo b") ⟨⟨[]⟩, none, none⟩ {} "m.txt") = true := by
  obtain ⟨hlawful, hrun⟩ := runWith_watched (silent "/echo a\n\n/echo b") ⟨⟨[]⟩, none, none⟩ {}
    "m.txt" rfl
  rw [Always.id_iff] at hlawful
  refine ⟨rfl, _, rfl, ?_, ?_⟩
  · obtain ⟨-, hprinted⟩ := hlawful.read (macroOfFile ⟨"m.txt"⟩ "/echo a\n\n/echo b")
      (by decide +kernel)
    have hsteps : initialSteps {} lineParser (macroOfFile ⟨"m.txt"⟩ "/echo a\n\n/echo b") =
        .ok [⟨"/echo a", 1⟩, ⟨"/echo b", 3⟩] := rfl
    rw [hprinted.printed, stream_of_native rfl hsteps]
    decide +kernel
  · rw [hrun]
    decide +kernel

/-- A platform of this kind that puts together what is printed. -/
def recording (text : String) : Platform (StateM ByteArray) :=
  sameText (fun bytes ↦ modify (· ++ bytes)) text

/-- The line for the first command starts with a blank. -/
theorem head?_commandLine_one (c : Command) :
    (commandLine 1 c).toUTF8.data.toList.head? = some 32 := by
  rw [commandLine, String.append_assoc, String.append_assoc, String.append_assoc,
    Text.toUTF8_append]
  rfl

/-- What a script writes stands among the printed commands: the standard output as a whole is not
made of commands, whatever they are. -/
theorem printed_besides :
    ({} : Config).validate = .ok () ∧
    ∃ output : ByteArray,
      ((runWith (recording "print('hi') yield('/echo a')") ⟨⟨[]⟩, none, none⟩ {} "a.lua").run
        .empty).run = (true, output) ∧
      output = "hi\n   1  /echo a\n".toUTF8 ∧
      ∀ cs : List Command, output ≠ (numberedFrom 0 cs).foldr (· ++ ·) .empty := by
  refine ⟨rfl, "hi\n   1  /echo a\n".toUTF8, ?_, rfl, fun cs houtput ↦ ?_⟩
  · simp only [runWith, runFile, Script.macroEngine]
    -- What making the interpreter comes to is known already; running that chunk takes the longest.
    unfold Script.Session.start
    simp only [Script.Session.prepare, Script.Interpreter.ofConfig_eq, pure_bind]
    decide +kernel
  · have hhead : "hi\n   1  /echo a\n".toUTF8.data.toList.head? = some 104 := by decide +kernel
    rw [houtput] at hhead
    cases cs with
    | nil => exact nomatch hhead
    | cons c cs =>
      rw [numberedFrom_cons, List.foldr_cons, ByteArray.data_append, Array.toList_append,
        List.head?_append, head?_commandLine_one, Option.some_or] at hhead
      exact absurd hhead (by decide)

end Program

end CommandLine

end MacroStream
