import Mathlib.Algebra.Group.Int.Defs
import Mathlib.Data.List.DropRight
import MacroStream.Decimal.Binary
import MacroStream.Proofs.ActiveHistory

/-!
# Histories of a macro in the command language

A macro in the command language is a list of steps that can be gone through again and again. All
that the four operations do to it is to move a cursor, and where the cursor stands behind some calls
can be read off the calls: `cursorBehind` counts the moves since the macro was looped last.

`performAll_of_native` says that there is nothing else to such a macro: answers, the macro behind
the calls and what is reported are given by the calls alone. So no call but a loop or a move makes a
difference to a later one, and the steps come again in order behind every loop.

The cursor is an integer of any size here. As long as there are fewer than `2^63` moves it fits a
signed word of 64 bits.
-/

namespace MacroStream

namespace ActiveMacro

variable {m : Type → Type} {T : Type} {a : ActiveMacro T}

/-! ### The cursor behind some calls -/

/-- Where the cursor stands behind some calls: as many steps on as it was moved. Since a loop it is
counted from in front of the first step. -/
def cursorBehind (cs : List Call) : Int :=
  if .loopToStart ∈ cs then (cs.rtakeWhile (· ≠ .loopToStart)).count .advance - 1
  else cs.count .advance

/-- The step at a place; there is none in front of the first one and behind the last one. -/
def stepAt (steps : List Command) (i : Int) : Option Command :=
  if 0 ≤ i then steps[i.toNat]? else none

/-- What a call is answered when the calls `before` it were made. -/
def answerBehind (steps : List Command) (before : List Call) : Call → Answer
  | .currentStep => .step (.ok (stepAt steps (cursorBehind before)))
  | .loopToStart => .loop (.ok ())
  | .advance | .dispose => .done

/-- What calls are answered one after the other when the calls `before` them were made. -/
def answersBehind (steps : List Command) (before : List Call) : List Call → List Answer
  | [] => []
  | c :: cs => answerBehind steps before c :: answersBehind steps (before ++ [c]) cs

/-- The macro behind some calls. -/
def behind (a : ActiveMacro T) (cs : List Call) : ActiveMacro T :=
  { a with stepIndex := cursorBehind cs, disposed := decide (.dispose ∈ cs) }

/-- What is reported during calls: a loop says so, and nothing else does. -/
def reportLoops [Monad m] (report : Diagnostic → m Unit) (node : MacroNode) : List Call → m Unit
  | [] => pure ()
  | .loopToStart :: cs => do
    report (looping node)
    reportLoops report node cs
  | _ :: cs => reportLoops report node cs

theorem cursorBehind_advance (cs : List Call) :
    cursorBehind (cs ++ [.advance]) = cursorBehind cs + 1 := by
  have hmem : Call.loopToStart ∈ cs ++ [.advance] ↔ .loopToStart ∈ cs := by simp
  have hsince : (cs ++ [Call.advance]).rtakeWhile (· ≠ .loopToStart) =
      cs.rtakeWhile (· ≠ .loopToStart) ++ [.advance] := List.rtakeWhile_concat_pos _ _ _ (by simp)
  simp only [cursorBehind, hmem, hsince, List.count_append, List.count_singleton_self]
  split <;> omega

theorem cursorBehind_loopToStart (cs : List Call) : cursorBehind (cs ++ [.loopToStart]) = -1 := by
  have hsince : (cs ++ [Call.loopToStart]).rtakeWhile (· ≠ .loopToStart) = [] :=
    List.rtakeWhile_concat_neg _ _ _ (by simp)
  rw [cursorBehind, hsince, if_pos (by simp)]
  rfl

/-- Other calls leave the cursor where it is. -/
theorem cursorBehind_concat (cs : List Call) {c : Call} (hadvance : c ≠ .advance)
    (hloop : c ≠ .loopToStart) : cursorBehind (cs ++ [c]) = cursorBehind cs := by
  have hmem : Call.loopToStart ∈ cs ++ [c] ↔ .loopToStart ∈ cs := by simp [hloop.symm]
  have hsince : (cs ++ [c]).rtakeWhile (· ≠ .loopToStart) =
      cs.rtakeWhile (· ≠ .loopToStart) ++ [c] := List.rtakeWhile_concat_pos _ _ _ (by simp [hloop])
  have hcount (l : List Call) : (l ++ [c]).count .advance = l.count .advance := by
    simp [List.count_append, hadvance]
  simp only [cursorBehind, hmem, hsince, hcount]

theorem neg_one_le_cursorBehind (cs : List Call) : -1 ≤ cursorBehind cs := by
  rw [cursorBehind]
  split <;> omega

theorem cursorBehind_le_count (cs : List Call) : cursorBehind cs ≤ cs.count .advance := by
  have hsince : (cs.rtakeWhile (· ≠ .loopToStart)).count .advance ≤ cs.count .advance :=
    (cs.rtakeWhile_suffix _).sublist.count_le _
  rw [cursorBehind]
  split <;> omega

/-- Disposals can be left out. -/
theorem cursorBehind_filter (cs : List Call) :
    cursorBehind (cs.filter (· ≠ .dispose)) = cursorBehind cs := by
  induction cs using List.reverseRecOn with
  | nil => rfl
  | append_singleton cs c ih =>
    rw [List.filter_append]
    cases c with
    | advance =>
      rw [cursorBehind_advance, ← ih]
      exact cursorBehind_advance _
    | loopToStart =>
      rw [cursorBehind_loopToStart]
      exact cursorBehind_loopToStart _
    | currentStep =>
      rw [cursorBehind_concat cs (by simp) (by simp), ← ih]
      exact cursorBehind_concat _ (by simp) (by simp)
    | dispose =>
      rw [cursorBehind_concat cs (by simp) (by simp), ← ih]
      exact congrArg cursorBehind (List.append_nil _)

/-! ### Answers -/

theorem answersBehind_append (steps : List Command) (before cs cs' : List Call) :
    answersBehind steps before (cs ++ cs') =
      answersBehind steps before cs ++ answersBehind steps (before ++ cs) cs' := by
  induction cs generalizing before with
  | nil => simp [answersBehind]
  | cons c cs ih => simp [answersBehind, ih]

/-- Only the place of the cursor counts of what was before. -/
theorem answersBehind_congr (steps : List Command) {before before' : List Call}
    (h : cursorBehind before = cursorBehind before') (cs : List Call) :
    answersBehind steps before cs = answersBehind steps before' cs := by
  induction cs generalizing before before' with
  | nil => rfl
  | cons c cs ih =>
    have hanswer : answerBehind steps before c = answerBehind steps before' c := by
      cases c <;> simp [answerBehind, h]
    have hmoved : cursorBehind (before ++ [c]) = cursorBehind (before' ++ [c]) := by
      cases c with
      | advance => rw [cursorBehind_advance, cursorBehind_advance, h]
      | loopToStart => rw [cursorBehind_loopToStart, cursorBehind_loopToStart]
      | currentStep | dispose =>
        rw [cursorBehind_concat _ (by simp) (by simp), cursorBehind_concat _ (by simp) (by simp), h]
    rw [answersBehind, answersBehind, hanswer, ih hmoved]

/-- Calls other than disposals are answered as if there were no disposals. -/
theorem zip_answersBehind_filter (steps : List Command) (before cs : List Call) :
    (cs.zip (answersBehind steps before cs)).filter (·.1 ≠ .dispose) =
      (cs.filter (· ≠ .dispose)).zip (answersBehind steps before (cs.filter (· ≠ .dispose))) := by
  induction cs generalizing before with
  | nil => rfl
  | cons c cs ih =>
    rw [answersBehind, List.zip_cons_cons]
    by_cases hc : c = .dispose
    · subst hc
      have hstays : cursorBehind (before ++ [.dispose]) = cursorBehind before :=
        cursorBehind_concat before (by simp) (by simp)
      rw [List.filter_cons_of_neg (by simp), List.filter_cons_of_neg (by simp), ih,
        answersBehind_congr steps hstays]
    · rw [List.filter_cons_of_pos (by simpa using hc), List.filter_cons_of_pos (by simpa using hc),
        ih, answersBehind, List.zip_cons_cons]

/-- From a place in front of the steps, moves and requests in turn give one step after the other. -/
theorem answersBehind_replicate (steps : List Command) {before : List Call} {i : Nat}
    (h : cursorBehind before = (i : Int) - 1) (n : Nat) :
    answersBehind steps before (List.replicate n [.advance, .currentStep]).flatten =
      (List.range' i n).flatMap fun j ↦ [.done, .step (.ok steps[j]?)] := by
  induction n generalizing before i with
  | zero => rfl
  | succ n ih =>
    have hmoved : cursorBehind (before ++ [.advance]) = (i : Int) := by
      rw [cursorBehind_advance, h]
      omega
    have hasked : cursorBehind (before ++ [.advance] ++ [.currentStep]) =
        ((i + 1 : Nat) : Int) - 1 := by
      rw [cursorBehind_concat _ (by simp) (by simp), hmoved]
      omega
    have hstep : stepAt steps (i : Int) = steps[i]? := by
      rw [stepAt, if_pos (Int.natCast_nonneg i), Int.toNat_natCast]
    rw [List.replicate_succ, List.flatten_cons, List.range'_succ, List.flatMap_cons]
    simp only [List.cons_append, List.nil_append, answersBehind, answerBehind, hmoved, hstep]
    rw [ih hasked]

/-! ### What calls do -/

theorem stepAtCursor_behind (a : ActiveMacro T) (cs : List Call) :
    (a.behind cs).stepAtCursor = stepAt a.steps (cursorBehind cs) := rfl

section Run

variable [Monad m] [LawfulMonad m] {report : Diagnostic → m Unit} {engine : ScriptEngine m T}

/-- One call behind others. -/
theorem perform_behind (hscript : a.node.isScript = false) (hbridge : a.bridge = none)
    (before : List Call) (c : Call) :
    perform report engine (a.behind before) c =
      (fun _ ↦ (answerBehind a.steps before c, a.behind (before ++ [c]))) <$>
        reportLoops report a.node [c] := by
  have hscript' : (a.behind before).node.isScript = false := hscript
  have hbridge' : (a.behind before).bridge = none := hbridge
  cases c with
  | currentStep =>
    have hsame : a.behind (before ++ [.currentStep]) = a.behind before := by
      simp [behind, cursorBehind_concat before]
    simp [perform, currentStep_of_native hscript', stepAtCursor_behind, answerBehind, hsame,
      reportLoops]
  | advance =>
    have hmoved : a.behind (before ++ [.advance]) = (a.behind before).advance := by
      simp [behind, cursorBehind_advance, ActiveMacro.advance]
    simp [perform, answerBehind, hmoved, reportLoops]
  | loopToStart =>
    have hlooped : a.behind (before ++ [.loopToStart]) =
        { a.behind before with stepIndex := -1 } := by
      simp [behind, cursorBehind_loopToStart]
    have hnode : (a.behind before).node = a.node := rfl
    simp [perform, loopToStart, hscript, answerBehind, hlooped, hnode, reportLoops]
  | dispose =>
    have hleft : a.behind (before ++ [.dispose]) = (a.behind before).letGo := by
      simp [behind, cursorBehind_concat before, letGo, hbridge]
    simp [perform, dispose, hbridge', answerBehind, hleft, letGo, reportLoops]

theorem reportLoops_cons (node : MacroNode) (c : Call) (cs : List Call) :
    reportLoops report node (c :: cs) = (do
      reportLoops report node [c]
      reportLoops report node cs) := by
  cases c <;> simp [reportLoops]

/-- Calls behind others. -/
theorem performAll_behind (hscript : a.node.isScript = false) (hbridge : a.bridge = none)
    (before cs : List Call) :
    performAll report engine (a.behind before) cs =
      (fun _ ↦ (answersBehind a.steps before cs, a.behind (before ++ cs))) <$>
        reportLoops report a.node cs := by
  induction cs generalizing before with
  | nil => simp [performAll, answersBehind, reportLoops]
  | cons c cs ih =>
    rw [performAll, perform_behind hscript hbridge, reportLoops_cons _ c cs, answersBehind]
    simp only [ih, bind_map_left, map_bind, bind_pure_comp, Functor.map_map, List.append_assoc,
      List.singleton_append]

end Run

/-! ### Histories -/

/-- What holds of the calls `cs` on a macro `a` that was made of `node` and has not been touched. -/
structure OfNative [Monad m] (report : Diagnostic → m Unit) (engine : ScriptEngine m T)
    (node : MacroNode) (a : ActiveMacro T) (cs : List Call) : Prop where
  /-- The calls are answered by the steps and by where the cursor is, and move the cursor. -/
  performAll_eq : performAll report engine a cs =
    (fun _ ↦ (answersBehind a.steps [] cs, a.behind cs)) <$> reportLoops report node cs
  node_eq : (a.behind cs).node = node
  steps_eq : (a.behind cs).steps = a.steps
  lineCount_eq : (a.behind cs).lineCount = (Text.splitLines node.contents).length
  stepIndex_eq : (a.behind cs).stepIndex = cursorBehind cs
  isRunningScript_eq : (a.behind cs).isRunningScript = false
  scriptState_eq : (a.behind cs).scriptState = none
  /-- To ask for the step at the cursor changes nothing. -/
  behind_currentStep : a.behind (cs ++ [.currentStep]) = a.behind cs
  /-- Without its disposals the history is the same, but for their own answers. -/
  without_dispose : (cs.zip (answersBehind a.steps [] cs)).filter (·.1 ≠ .dispose) =
      (cs.filter (· ≠ .dispose)).zip (answersBehind a.steps [] (cs.filter (· ≠ .dispose))) ∧
    a.behind cs = { a.behind (cs.filter (· ≠ .dispose)) with disposed := decide (.dispose ∈ cs) }
  /-- Behind a loop, moves and requests in turn give all steps in order, and then none any more. -/
  replay : ∀ n, answersBehind a.steps []
      (cs ++ .loopToStart :: (List.replicate n [.advance, .currentStep]).flatten) =
    answersBehind a.steps [] cs ++
      .loop (.ok ()) :: (List.range n).flatMap fun i ↦ [.done, .step (.ok a.steps[i]?)]
  /-- The cursor fits a word as long as the moves can be counted in one. -/
  fits : cs.count .advance < 2 ^ 63 → -2 ^ 63 ≤ cursorBehind cs ∧ cursorBehind cs < 2 ^ 63

theorem eq_of_prepare {craft : CraftLoopConfig} {parser : CommandParser} {node : MacroNode}
    (ha : prepare craft parser node = .ok a) :
    a = ⟨node, a.steps, 0, (Text.splitLines node.contents).length, parser, none, false⟩ := by
  rw [prepare] at ha
  cases hsteps : initialSteps craft parser node with
  | error e =>
    rw [hsteps] at ha
    exact nomatch ha
  | ok steps =>
    rw [hsteps] at ha
    obtain rfl := Except.ok.inj ha
    rfl

/-- **The law of step lists.** A macro in the command language that was prepared is its list of
steps with a cursor, whatever the parser made of it and in whatever order it is worked through. -/
theorem ofNative_performAll [Monad m] [LawfulMonad m] (report : Diagnostic → m Unit)
    (engine : ScriptEngine m T) (craft : CraftLoopConfig) (parser : CommandParser)
    (node : MacroNode) (hnode : node.language = .native) (a : ActiveMacro T)
    (ha : prepare craft parser node = .ok a) (cs : List Call) :
    OfNative report engine node a cs := by
  have hscript : node.isScript = false := by rw [MacroNode.isScript, hnode]; rfl
  have hfresh := eq_of_prepare ha
  generalize a.steps = steps at hfresh
  subst hfresh
  refine ⟨?_, rfl, rfl, rfl, rfl, rfl, rfl, ?_, ⟨zip_answersBehind_filter _ _ cs, ?_⟩, fun n ↦ ?_,
    fun hfew ↦ ?_⟩
  · exact performAll_behind (a := ⟨node, steps, 0, _, parser, none, false⟩) hscript rfl [] cs
  · simp [behind, cursorBehind_concat cs]
  · rw [behind, behind, cursorBehind_filter]
  · have hlooped : cursorBehind ([] ++ cs ++ [.loopToStart]) = ((0 : Nat) : Int) - 1 :=
      cursorBehind_loopToStart _
    rw [answersBehind_append, answersBehind, answersBehind_replicate _ hlooped,
      List.range_eq_range']
    rfl
  · have hlow := neg_one_le_cursorBehind cs
    have hhigh := cursorBehind_le_count cs
    omega

/-- Two steps: past the end, disposed of, and then all over again. -/
theorem ofNative_performAll_two :
    ({ name := "m", contents := "/echo a\r/echo b" } : MacroNode).language = .native ∧
    ∃ a : ActiveMacro Unit,
      prepare {} lineParser { name := "m", contents := "/echo a\r/echo b" } = .ok a ∧
      (performAll (m := Id) (fun _ ↦ ()) ⟨fun _ _ ↦ .ok (), fun _ ↦ (.returned [], ())⟩ a
        [.currentStep, .advance, .advance, .currentStep, .dispose, .loopToStart, .currentStep,
          .advance, .currentStep]).1 =
        [.step (.ok (some ⟨"/echo a", 1⟩)), .done, .done, .step (.ok none), .done, .loop (.ok ()),
          .step (.ok none), .done, .step (.ok (some ⟨"/echo a", 1⟩))] := by
  refine ⟨rfl, _, rfl, ?_⟩
  have h := ofNative_performAll (m := Id) (T := Unit) (fun _ ↦ ())
    ⟨fun _ _ ↦ .ok (), fun _ ↦ (.returned [], ())⟩ {} lineParser
    { name := "m", contents := "/echo a\r/echo b" } rfl _ rfl
    [.currentStep, .advance, .advance, .currentStep, .dispose, .loopToStart, .currentStep,
      .advance, .currentStep]
  rw [h.performAll_eq]
  rfl

end ActiveMacro

end MacroStream
