import Mathlib.Algebra.Group.Int.Defs
import MacroStream.Decimal.Binary
import MacroStream.Proofs.ActiveHistory

/-!
# Histories of a script

What holds of every history of a macro that is a script, whatever its coroutine gives and in
whatever order it is worked through: its steps are the commands that were answered, the cursor is
idle, nothing happens behind the end of the script, and nothing at all behind its disposal.

The craft loop has no part in it: scripts are not wrapped, and their histories are the same under
all craft loop settings.

The cursor is an integer of any size here. It counts the moves, so it fits a signed word of 64 bits
as long as there are fewer than `2^63` of them.
-/

namespace MacroStream

namespace ActiveMacro

variable {m : Type → Type} {T : Type} {a a' : ActiveMacro T} {ev : Event T} {evs : List (Event T)}

/-! ### What histories satisfy -/

/-- There is no script any more, and there will be none. -/
def Gone (a : ActiveMacro T) : Prop := a.disposed = true ∧ a.bridge = none

/-- The event neither shows nor changes anything of a script. -/
structure Event.Dead (ev : Event T) : Prop where
  touches : ev.touches = []
  answer : ev.call = .currentStep → ev.answer = .step (.ok none)
  scriptState : ev.after.scriptState = none
  isRunningScript : ev.after.isRunningScript = false
  steps : ev.after.steps = ev.before.steps

/-- What a single event of the history of a script satisfies. -/
structure Event.OfScript (ev : Event T) : Prop where
  /-- The steps grow by the command that is answered, and by nothing else. -/
  steps : ev.after.steps = ev.before.steps ++ ev.command?.toList
  advance : ev.call = .advance →
    ev.after = { ev.before with stepIndex := ev.before.stepIndex + 1 } ∧ ev.touches = []
  loopToStart : ev.call = .loopToStart →
    (∃ message, ev.answer = .loop (.error (.unsupportedOperation message))) ∧
      ev.after = ev.before ∧ ev.touches = []
  /-- A script that has completed or failed is left alone. -/
  finished : ev.call = .currentStep →
    ev.before.scriptState = some .completed ∨ ev.before.scriptState = some .failed →
    ev.answer = .step (.ok none) ∧ ev.after = ev.before ∧ ev.touches = []
  disposed : ev.call = .dispose → ev.Dead

/-- What holds of the calls `cs` on a script `a`, with the events they make and the macro they
leave. -/
structure OfScript (a : ActiveMacro T) (cs : List Call) (evs : List (Event T))
    (final : ActiveMacro T) : Prop where
  calls : evs.map Event.call = cs
  /-- The first call finds `a`, each other one what the call before it left, and the last one leaves
  `final`. -/
  connected : evs.map Event.before ++ [final] = a :: evs.map Event.after
  each : ∀ ev ∈ evs, ev.OfScript
  /-- The steps are the commands that were answered. -/
  steps : final.steps = a.steps ++ evs.filterMap Event.command?
  /-- From the first disposal on there is no script, and the steps stay. -/
  disposed : evs.Pairwise fun x y ↦
    x.call = .dispose → y.Dead ∧ y.after.steps = x.after.steps
  /-- The cursor counts the moves. -/
  stepIndex : final.stepIndex = a.stepIndex + cs.count .advance
  /-- The cursor of a script that starts fits a word as long as the moves can be counted in one. -/
  fits : a.stepIndex = 0 → cs.count .advance < 2 ^ 63 →
    -2 ^ 63 ≤ final.stepIndex ∧ final.stepIndex < 2 ^ 63

/-! ### What one call keeps -/

theorem Step.before_eq (h : Step a ev a') : ev.before = a := by cases h <;> rfl

theorem Step.after_eq (h : Step a ev a') : ev.after = a' := by cases h <;> rfl

theorem Step.isScript (h : Step a ev a') (ha : a.node.isScript = true) :
    a'.node.isScript = true := by
  rw [h.node_eq]
  exact ha

/-- The command that is answered is the one that the output comes to. -/
theorem command?_step_answerTo (c : Call) (b b' : ActiveMacro T) (ts : List Touch)
    (parser : CommandParser) (r : Resumed) :
    Event.command? ⟨c, b, ts, .step (answerTo parser r), b'⟩ = heard parser r := by
  rcases r with (_ | ⟨_ | _, _⟩) | (_ | ⟨_ | _, _⟩) | _ <;> rfl

theorem Step.steps (h : Step a ev a') (ha : a.node.isScript = true) :
    a'.steps = a.steps ++ ev.command?.toList := by
  cases h with
  | opened | resumed => simp [afterOutput, command?_step_answerTo]
  | looped h | pointed h => exact absurd ha (by simp [h])
  | advanced | refused | idle | stuck | disposed =>
    simp [Event.command?, ActiveMacro.advance, letGo]

/-- Only a move changes the cursor. -/
theorem Step.stepIndex (h : Step a ev a') (ha : a.node.isScript = true) :
    a'.stepIndex = a.stepIndex + [ev.call].count .advance := by
  cases h with
  | looped h | pointed h => exact absurd ha (by simp [h])
  | advanced => rfl
  | refused | idle | stuck | opened | resumed | disposed => exact (Int.add_zero _).symm

/-- A script that can go on has neither completed nor failed. -/
theorem not_finished_of_live {t : T} {s : EntrypointState} (hs : s.isTerminal = false)
    (hb : a.bridge = some ⟨some ⟨some t, s⟩⟩) :
    ¬(a.scriptState = some .completed ∨ a.scriptState = some .failed) := by
  have hstate : a.scriptState = some s := by
    rw [scriptState, hb]
    rfl
  rw [hstate]
  rintro (h | h)
  · exact nomatch Option.some.inj h ▸ hs
  · exact nomatch Option.some.inj h ▸ hs

theorem not_finished_of_unopened (hb : a.bridge = none) :
    ¬(a.scriptState = some .completed ∨ a.scriptState = some .failed) := by
  simp [scriptState, hb]

theorem Gone.dead (ha : a.Gone) (hsteps : ev.after.steps = ev.before.steps) (hafter : ev.after = a)
    (htouches : ev.touches = []) (hanswer : ev.call = .currentStep → ev.answer = .step (.ok none)) :
    ev.Dead := by
  refine ⟨htouches, hanswer, ?_, ?_, hsteps⟩
  · rw [hafter, scriptState, ha.2]
    rfl
  · rw [hafter, isRunningScript, ha.2]

theorem gone_letGo (a : ActiveMacro T) : a.letGo.Gone := ⟨rfl, rfl⟩

/-- Behind its disposal a script stays as it is. -/
theorem Step.gone (h : Step a ev a') (ha : a.node.isScript = true) (hgone : a.Gone) :
    a'.Gone ∧ ev.Dead := by
  cases h with
  -- None of the steps that touch a script is possible without one.
  | opened t r h hd hb => exact absurd hgone.1 (by simp [hd])
  | resumed t t' r h hd hb hs => exact absurd hgone.1 (by simp [hd])
  | stuck e h hd hb => exact absurd hgone.1 (by simp [hd])
  | looped h | pointed h => exact absurd ha (by simp [h])
  | advanced =>
    have hgone' : a.advance.Gone := hgone
    exact ⟨hgone', hgone'.dead rfl rfl rfl nofun⟩
  | refused => exact ⟨hgone, hgone.dead rfl rfl rfl nofun⟩
  | idle => exact ⟨hgone, hgone.dead rfl rfl rfl fun _ ↦ rfl⟩
  | disposed => exact ⟨a.gone_letGo, a.gone_letGo.dead rfl rfl rfl nofun⟩

theorem Step.ofScript (h : Step a ev a') (ha : a.node.isScript = true) : ev.OfScript := by
  have hsteps : ev.after.steps = ev.before.steps ++ ev.command?.toList := by
    rw [h.before_eq, h.after_eq]
    exact h.steps ha
  cases h with
  | looped h | pointed h => exact absurd ha (by simp [h])
  | advanced => exact ⟨hsteps, fun _ ↦ ⟨rfl, rfl⟩, nofun, nofun, nofun⟩
  | refused => exact ⟨hsteps, nofun, fun _ ↦ ⟨⟨_, rfl⟩, rfl, rfl⟩, nofun, nofun⟩
  | idle => exact ⟨hsteps, nofun, nofun, fun _ _ ↦ ⟨rfl, rfl, rfl⟩, nofun⟩
  | stuck e h hd hb | opened t r h hd hb =>
    exact ⟨hsteps, nofun, nofun, fun _ hend ↦ absurd hend (not_finished_of_unopened hb), nofun⟩
  | resumed t t' r h hd hb hs =>
    exact ⟨hsteps, nofun, nofun, fun _ hend ↦ absurd hend (not_finished_of_live hs hb), nofun⟩
  | disposed =>
    exact ⟨hsteps, nofun, nofun, nofun, fun _ ↦ a.gone_letGo.dead rfl rfl rfl nofun⟩

/-! ### Histories -/

theorem Steps.connected (h : Steps a evs a') :
    evs.map Event.before ++ [a'] = a :: evs.map Event.after := by
  induction h with
  | nil => rfl
  | cons h _ ih => rw [List.map_cons, List.map_cons, List.cons_append, ih, h.before_eq, h.after_eq]

theorem Steps.each (h : Steps a evs a') (ha : a.node.isScript = true) :
    ∀ ev ∈ evs, ev.OfScript :=
  h.forall_of_kept (I := fun a ↦ a.node.isScript = true)
    (fun h ha ↦ ⟨h.isScript ha, h.ofScript ha⟩) ha

theorem Steps.steps (h : Steps a evs a') (ha : a.node.isScript = true) :
    a'.steps = a.steps ++ evs.filterMap Event.command? := by
  induction h with
  | nil => simp
  | @cons _ _ _ ev _ h _ ih =>
    rw [ih (h.isScript ha), h.steps ha, List.append_assoc]
    cases hc : ev.command? <;> simp [hc]

theorem Steps.stepIndex (h : Steps a evs a') (ha : a.node.isScript = true) :
    a'.stepIndex = a.stepIndex + (evs.map Event.call).count .advance := by
  induction h with
  | nil => exact (Int.add_zero _).symm
  | @cons _ _ _ ev evs h _ ih =>
    have hcount : (ev.call :: evs.map Event.call).count .advance =
        [ev.call].count .advance + (evs.map Event.call).count .advance := by
      rw [← List.count_append, List.singleton_append]
    rw [ih (h.isScript ha), h.stepIndex ha, List.map_cons, hcount]
    omega

theorem Steps.gone (h : Steps a evs a') (ha : a.node.isScript = true) (hgone : a.Gone) :
    ∀ ev ∈ evs, ev.Dead ∧ ev.after.steps = a.steps := by
  refine h.forall_of_kept
    (I := fun b ↦ b.node.isScript = true ∧ b.Gone ∧ b.steps = a.steps) ?_ ⟨ha, hgone, rfl⟩
  rintro b ev b' h ⟨hb, hgone, hsteps⟩
  obtain ⟨hgone', hdead⟩ := h.gone hb hgone
  have hkept : ev.after.steps = a.steps := by rw [hdead.steps, h.before_eq, hsteps]
  exact ⟨⟨h.isScript hb, hgone', by rw [← h.after_eq, hkept]⟩, hdead, hkept⟩

theorem Step.gone_of_dispose (h : Step a ev a') (hev : ev.call = .dispose) : a'.Gone := by
  cases h with
  | disposed => exact a.gone_letGo
  | _ => exact nomatch hev

theorem Steps.disposed (h : Steps a evs a') (ha : a.node.isScript = true) :
    evs.Pairwise fun x y ↦ x.call = .dispose → y.Dead ∧ y.after.steps = x.after.steps := by
  induction h with
  | nil => exact .nil
  | cons h hs ih =>
    refine List.pairwise_cons.2 ⟨fun y hy hev ↦ ?_, ih (h.isScript ha)⟩
    rw [h.after_eq]
    exact hs.gone (h.isScript ha) (h.gone_of_dispose hev) y hy

theorem Steps.ofScript {cs : List Call} (h : Steps a evs a') (ha : a.node.isScript = true)
    (hcs : evs.map Event.call = cs) : OfScript a cs evs a' := by
  have hcursor : a'.stepIndex = a.stepIndex + cs.count .advance := hcs ▸ h.stepIndex ha
  refine ⟨hcs, h.connected, h.each ha, h.steps ha, h.disposed ha, hcursor, fun hstart hfew ↦ ?_⟩
  omega

/-- A script that was prepared and has not run. -/
def unopened (parser : CommandParser) (node : MacroNode) : ActiveMacro T where
  node := node
  steps := []
  stepIndex := 0
  lineCount := (Text.splitLines node.contents).length
  parser := parser
  bridge := none
  disposed := false

/-- The preparation of a script cannot fail. -/
theorem prepare_of_script (c : CraftLoopConfig) (parser : CommandParser) {node : MacroNode}
    (h : node.isScript = true) : prepare (T := T) c parser node = .ok (unopened parser node) := by
  rw [prepare, initialSteps, if_pos h]
  rfl

/-- **The law of scripts.** A script can always be prepared, and the steps of the macro are then the
commands that it answered, whatever its coroutine gives and in whatever order it is worked through;
and the craft loop settings, of the macro and of the engine, make no difference. -/
theorem ofScript_observe [Monad m] [LawfulMonad m] (report : Diagnostic → m Unit)
    (engine : ScriptEngine m T) (c : CraftLoopConfig) (parser : CommandParser) (node : MacroNode)
    (hnode : node.language = .lua) (cs : List Call) :
    ∃ a : ActiveMacro T,
      start report c parser node = (do report (queued node 0 a.lineCount); return .ok a) ∧
      a.steps = [] ∧ a.stepIndex = 0 ∧
      Always (fun r ↦ OfScript a cs r.1 r.2) (observe report engine a cs) ∧
      (fun r ↦ (r.1.map Event.answer, r.2)) <$> observe report engine a cs =
        performAll report engine a cs ∧
      ∀ (c' : CraftLoopConfig) (on : Bool) (count : Int32),
        start report c' parser { node with craftLoop := on, craftLoopCount := count } =
          (do report (queued node 0 a.lineCount); return .ok (a.recraft on count)) ∧
        observe report engine (a.recraft on count) cs =
          Prod.map (List.map (Event.recraft on count)) (recraft on count) <$>
            observe report engine a cs := by
  have h : node.isScript = true := by rw [MacroNode.isScript, hnode]; rfl
  refine ⟨unopened parser node, ?_, rfl, rfl, ?_, answers_observe _ cs, ?_⟩
  · rw [start, prepare_of_script c parser h]
    rfl
  · exact (observe_steps _ cs).mono fun r hr ↦ hr.1.ofScript h hr.2
  · refine fun c' on count ↦ ⟨?_, observe_recraft on count h cs⟩
    have h' : { node with craftLoop := on, craftLoopCount := count : MacroNode }.isScript = true :=
      h
    rw [start, prepare_of_script c' parser h']
    rfl

/-- Runs scripts that give prepared outputs; a script without a source cannot be started. -/
def preparedEngine (outputs : List Resumed) : ScriptEngine Id (List Resumed) where
  start _ source := if source.isEmpty then .error noEntrypoint else .ok outputs
  resume := Entrypoint.prepared

/-- A command, a line that is none, a loop that is refused, the end, and a step too many. -/
theorem ofScript_observe_prepared :
    ({ name := "m", contents := "run()", language := .lua } : MacroNode).language = .lua ∧
    ∃ a : ActiveMacro (List Resumed), a.steps = [] ∧
      Always (fun r ↦ OfScript a [.currentStep, .currentStep, .loopToStart, .dispose, .currentStep]
          r.1 r.2)
        (observe (fun _ ↦ pure ())
          (preparedEngine [.yielded [.text "/echo a"], .yielded [.text "a"]]) a
          [.currentStep, .currentStep, .loopToStart, .dispose, .currentStep]) := by
  refine ⟨rfl, ?_⟩
  obtain ⟨a, -, hsteps, -, ha, -⟩ := ofScript_observe (fun _ ↦ pure ())
    (preparedEngine [.yielded [.text "/echo a"], .yielded [.text "a"]]) {} lineParser
    { name := "m", contents := "run()", language := .lua } rfl
    [.currentStep, .currentStep, .loopToStart, .dispose, .currentStep]
  exact ⟨a, hsteps, ha⟩

end ActiveMacro

end MacroStream
