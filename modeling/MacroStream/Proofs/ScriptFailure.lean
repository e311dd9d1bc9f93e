import MacroStream.Proofs.ScriptHistory

/-!
# Scripts that fail

When a request for a step can fail, and what happens behind a failure, whatever the host asks for
and in whatever order.

There are two ways to fail, and they differ. An error of the coroutine is final: the script is left
alone, and every later request is answered that there is no step. A script that could not be started
leaves the macro as it was, so the next request starts it again.

* `Failing` is what holds of every history.
* `FailsOnce` is the law under which both failures would be alike: a script is started at most once,
  by the first request, and no request behind an error fails. The histories that satisfy it are
  exactly those where a start that was refused is not followed by another request before the
  disposal.
-/

namespace MacroStream

namespace ActiveMacro

open Entrypoint (judge)

variable {m : Type → Type} {T : Type} {a a' : ActiveMacro T} {ev : Event T} {evs : List (Event T)}

/-! ### Starts and failures -/

/-- Whether a script was started, or was to be. -/
def Touch.isStart : Touch → Bool
  | .started => true
  | .gave _ => false

/-- How often a script was started, or was to be. -/
def Event.starts (ev : Event T) : Nat := ev.touches.countP Touch.isStart

/-- The request was answered with an error. -/
def Event.Fails (ev : Event T) : Prop := ∃ e, ev.answer = .step (.error e)

/-- A script was to be started, and could not be. -/
def Event.Refused (ev : Event T) : Prop := ev.touches = [.started] ∧ ev.Fails

/-- The event asks for a step of a script that was not disposed of. -/
def Event.Asks (ev : Event T) : Prop := ev.call = .currentStep ∧ ev.before.disposed = false

/-- What holds of failures in every history of a script. -/
structure Failing (evs : List (Event T)) : Prop where
  /-- Each request that finds neither a script nor its disposal starts the script. -/
  starts_iff : ∀ ev ∈ evs, ev.starts ≠ 0 ↔ ev.Asks ∧ ev.before.scriptState = none
  /-- Behind the disposal there is no step. -/
  unasked : ∀ ev ∈ evs, ev.call = .currentStep → ¬ev.Asks → ev.answer = .step (.ok none)
  /-- A start that is refused leaves nothing behind. -/
  refused : ∀ ev ∈ evs, ev.Refused → ev.after = ev.before
  /-- A script that was started is not started again. -/
  opened : evs.Pairwise fun x y ↦ x.call = .currentStep ∧ ¬x.Refused → y.starts = 0
  /-- An error of the coroutine is final. -/
  failed : evs.Pairwise fun x y ↦ x.Fails ∧ ¬x.Refused →
    y.touches = [] ∧ (y.call = .currentStep → y.answer = .step (.ok none))

/-- A script is started once, and fails once. -/
structure FailsOnce (evs : List (Event T)) : Prop where
  starts_le : (evs.map Event.starts).sum ≤ 1
  /-- Only the first request for a step can start the script. -/
  first : evs.Pairwise fun x y ↦ x.call = .currentStep → y.starts = 0
  /-- Behind an error there is no step. -/
  failed : evs.Pairwise fun x y ↦
    x.Fails → y.call = .currentStep → y.answer = .step (.ok none)

/-! ### What one call does -/

/-- A script that was disposed of, or has been started. -/
def Settled (a : ActiveMacro T) : Prop := a.disposed = true ∨ a.bridge ≠ none

/-- A script that was disposed of, or has nothing more to give. -/
def Over (a : ActiveMacro T) : Prop :=
  a.node.isScript = true ∧ (a.disposed = true ∨ ∃ b, a.bridge = some b ∧ b.Idle)

theorem scriptState_eq_none_iff : a.scriptState = none ↔ a.bridge = none := by
  rw [scriptState, Option.map_eq_none_iff]

theorem Step.starts_ne_zero_iff (h : Step a ev a') (ha : a.node.isScript = true) :
    ev.starts ≠ 0 ↔ ev.Asks ∧ a.bridge = none := by
  cases h with
  | stuck e h hd hb | opened t r h hd hb =>
    simp [Event.starts, Touch.isStart, Event.Asks, hd, hb]
  | resumed t t' r h hd hb => simp [Event.starts, Touch.isStart, hb]
  | idle h hidle =>
    rcases hidle with hd | ⟨b, hb, -⟩
    · simp [Event.starts, Event.Asks, hd]
    · simp [Event.starts, hb]
  | looped h | pointed h => exact absurd ha (by simp [h])
  | advanced | refused | disposed => simp [Event.starts, Event.Asks]

/-- One call starts a script at most once. -/
theorem Step.starts_le_one (h : Step a ev a') : ev.starts ≤ 1 := by
  cases h <;> exact Nat.le_of_ble_eq_true rfl

theorem Step.answer_of_not_asks (h : Step a ev a') (ha : a.node.isScript = true)
    (hcall : ev.call = .currentStep) (hev : ¬ev.Asks) : ev.answer = .step (.ok none) := by
  cases h with
  | pointed h => exact absurd ha (by simp [h])
  | idle => rfl
  | stuck e h hd | opened t r h hd | resumed t t' r h hd => exact absurd ⟨rfl, hd⟩ hev
  | advanced | looped | refused | disposed => exact nomatch hcall

theorem Step.eq_of_refused (h : Step a ev a') (hev : ev.Refused) : a' = a ∧ a.bridge = none := by
  cases h with
  | stuck e h hd hb => exact ⟨rfl, hb⟩
  | _ => exact nomatch hev.1

/-- A request that is not refused leaves a script behind, unless there is none any more. -/
theorem Step.settled_of_call (h : Step a ev a') (ha : a.node.isScript = true)
    (hev : ev.call = .currentStep ∧ ¬ev.Refused) : a'.Settled := by
  cases h with
  | pointed h => exact absurd ha (by simp [h])
  | stuck e h hd hb => exact absurd ⟨rfl, e, rfl⟩ hev.2
  | opened | resumed => exact .inr (by simp [afterOutput])
  | idle h hidle =>
    rcases hidle with hd | ⟨b, hb, -⟩
    · exact .inl hd
    · exact .inr (by simp [hb])
  | advanced | looped | refused | disposed => cases hev.1

theorem Step.settled (h : Step a ev a') (ha : a.Settled) : a'.Settled ∧ ev.starts = 0 := by
  cases h with
  | stuck e h hd hb | opened t r h hd hb =>
    rcases ha with hd' | hb'
    · exact absurd hd' (by simp [hd])
    · exact absurd hb hb'
  | resumed => exact ⟨.inr (by simp [afterOutput]), rfl⟩
  | disposed => exact ⟨.inl rfl, rfl⟩
  | advanced | looped | refused | pointed | idle => exact ⟨ha, rfl⟩

/-- An error of the coroutine ends the script. -/
theorem Step.over_of_fails (h : Step a ev a') (hev : ev.Fails ∧ ¬ev.Refused) : a'.Over := by
  obtain ⟨⟨e, he⟩, hnot⟩ := hev
  cases h with
  | stuck e' => exact absurd ⟨rfl, e', rfl⟩ hnot
  | opened t r h | resumed _ t r h =>
    refine ⟨h, .inr ⟨_, rfl, .inl ?_⟩⟩
    have hjudge : ∃ err, (judge r).1 = .error err := by
      rcases hr : (judge r).1 with err | line
      · exact ⟨err, rfl⟩
      · simp [answerTo, hr, Except.map] at he
    obtain ⟨err, herr⟩ := hjudge
    rw [ScriptBridge.state, Entrypoint.judge_of_error herr]
    rfl
  | _ => cases he

/-- Nothing happens to a script that has nothing more to give. -/
theorem Step.over (h : Step a ev a') (ha : a.Over) :
    a'.Over ∧ ev.touches = [] ∧ (ev.call = .currentStep → ev.answer = .step (.ok none)) := by
  obtain ⟨hscript, hover⟩ := ha
  cases h with
  | looped h | pointed h => exact absurd hscript (by simp [h])
  | advanced | refused => exact ⟨⟨hscript, hover⟩, rfl, nofun⟩
  | idle => exact ⟨⟨hscript, hover⟩, rfl, fun _ ↦ rfl⟩
  | disposed => exact ⟨⟨hscript, .inl rfl⟩, rfl, nofun⟩
  | stuck e h hd hb | opened t r h hd hb =>
    rcases hover with hd' | ⟨b, hb', -⟩
    · exact absurd hd' (by simp [hd])
    · exact absurd hb' (by simp [hb])
  | resumed t t' r h hd hb hs =>
    rcases hover with hd' | ⟨b, hb', hidle⟩
    · exact absurd hd' (by simp [hd])
    · -- A coroutine that can go on is not idle.
      obtain rfl : (⟨some ⟨some t, _⟩⟩ : ScriptBridge T) = b := Option.some.inj (hb.symm.trans hb')
      rcases hidle with hend | ⟨s', hs'⟩
      · exact absurd hend (by simp [ScriptBridge.state, hs])
      · exact nomatch hs'

/-- Without a start there is still no script. -/
theorem Step.bridge_eq_none (h : Step a ev a') (hstarts : ev.starts = 0) (hb : a.bridge = none) :
    a'.bridge = none := by
  cases h with
  | opened => exact nomatch hstarts
  | resumed t t' r h hd hb' => exact absurd hb (by simp [hb'])
  | disposed => rfl
  | _ => exact hb

/-! ### Histories -/

theorem Steps.failing (h : Steps a evs a') (ha : a.node.isScript = true) : Failing evs where
  starts_iff := by
    refine h.forall_of_kept (I := fun a ↦ a.node.isScript = true) (fun {a ev a'} h ha ↦ ?_) ha
    rw [h.starts_ne_zero_iff ha, scriptState_eq_none_iff, h.before_eq]
    exact ⟨h.isScript ha, .rfl⟩
  unasked := h.forall_of_kept (I := fun a ↦ a.node.isScript = true)
    (fun h ha ↦ ⟨h.isScript ha, h.answer_of_not_asks ha⟩) ha
  refused := by
    refine h.forall_of_kept (I := fun _ ↦ True) (fun h _ ↦ ⟨trivial, fun hev ↦ ?_⟩) trivial
    rw [h.after_eq, h.before_eq, (h.eq_of_refused hev).1]
  opened := h.pairwise_of_kept (J := fun a ↦ a.node.isScript = true) Step.isScript
    Step.settled_of_call Step.settled ha
  failed := h.pairwise_of_kept (J := fun _ ↦ True) (fun _ _ ↦ trivial)
    (fun h _ ↦ h.over_of_fails) Step.over trivial

/-- Requests without a start in between find no script. -/
theorem Steps.bridge_eq_none (h : Steps a evs a') (hb : a.bridge = none)
    (hstarts : ∀ ev ∈ evs, ev.starts = 0) : ∀ ev ∈ evs, ev.before.bridge = none := by
  induction h with
  | nil => simp
  | cons h _ ih =>
    obtain ⟨hev, hevs⟩ := List.forall_mem_cons.1 hstarts
    refine List.forall_mem_cons.2 ⟨?_, ih (h.bridge_eq_none hev hb) hevs⟩
    rw [h.before_eq, hb]

/-- If no event starts a script behind one that did, there is one start at most. -/
theorem sum_starts_le_one (hone : ∀ ev ∈ evs, ev.starts ≤ 1)
    (hpair : evs.Pairwise fun x y ↦ x.starts ≠ 0 → y.starts = 0) :
    (evs.map Event.starts).sum ≤ 1 := by
  induction evs with
  | nil => simp
  | cons ev evs ih =>
    obtain ⟨hev, hevs⟩ := List.forall_mem_cons.1 hone
    obtain ⟨hhead, htail⟩ := List.pairwise_cons.1 hpair
    rw [List.map_cons, List.sum_cons]
    by_cases h0 : ev.starts = 0
    · have := ih hevs htail
      omega
    · have hsum : (evs.map Event.starts).sum = 0 := by
        rw [List.sum_eq_zero_iff_forall_eq_nat]
        exact List.forall_mem_map.2 fun y hy ↦ hhead y hy h0
      omega

/-- Without a request behind a refused start the script is started once, and fails once. -/
theorem Steps.failsOnce (h : Steps a evs a') (ha : a.node.isScript = true)
    (hasks : evs.Pairwise fun x y ↦ x.Refused → ¬y.Asks) : FailsOnce evs := by
  have hf := h.failing ha
  have hasks_of : ∀ ev ∈ evs, ev.starts ≠ 0 → ev.Asks := fun ev hev h ↦
    ((hf.starts_iff ev hev).1 h).1
  -- A request that was refused is followed by none, any other one leaves a script behind.
  have hfirst : evs.Pairwise fun x y ↦ x.call = .currentStep → y.starts = 0 := by
    refine (hf.opened.and hasks).imp_of_mem fun {x y} _ hy hxy hx ↦ ?_
    by_cases hr : x.Refused
    · by_contra hy0
      exact hxy.2 hr (hasks_of y hy hy0)
    · exact hxy.1 ⟨hx, hr⟩
  refine ⟨sum_starts_le_one ?_ ?_, hfirst, ?_⟩
  · exact h.forall_of_kept (I := fun _ ↦ True) (fun h _ ↦ ⟨trivial, h.starts_le_one⟩) trivial
  · exact hfirst.imp_of_mem fun {x y} hx _ hxy h0 ↦ hxy (hasks_of x hx h0).1
  · refine (hf.failed.and hasks).imp_of_mem fun {x y} _ hy hxy hx hcall ↦ ?_
    by_cases hr : x.Refused
    · exact hf.unasked y hy hcall (hxy.2 hr)
    · exact (hxy.1 ⟨hx, hr⟩).2 hcall

/-- A request behind a refused start is the second one to start the script. -/
theorem Steps.not_asks_of_failsOnce (h : Steps a evs a') (ha : a.node.isScript = true)
    (hlaw : FailsOnce evs) : evs.Pairwise fun x y ↦ x.Refused → ¬y.Asks := by
  have hfirst := hlaw.first
  clear hlaw
  induction h with
  | nil => exact .nil
  | @cons a a' _ x evs h hs ih =>
    obtain ⟨hhead, htail⟩ := List.pairwise_cons.1 hfirst
    refine List.pairwise_cons.2 ⟨fun y hy hx hasks ↦ ?_, ih (h.isScript ha) htail⟩
    obtain ⟨rfl, hb⟩ := h.eq_of_refused hx
    -- The refused start was a request, so nothing starts the script behind it, and there is none.
    have hcall : x.call = .currentStep := by
      have hx0 : x.starts ≠ 0 := by simp [Event.starts, hx.1, Touch.isStart]
      exact ((h.starts_ne_zero_iff ha).1 hx0).1.1
    have hnone : y.before.bridge = none := hs.bridge_eq_none hb (fun z hz ↦ hhead z hz hcall) y hy
    have hy0 : y.starts ≠ 0 :=
      ((hs.failing ha).starts_iff y hy).2 ⟨hasks, scriptState_eq_none_iff.2 hnone⟩
    exact hy0 (hhead y hy hcall)

/-- **Failures of a script.** An error of the coroutine is final, whatever the coroutine gives and
in whatever order the script is worked through; and the script is started once and fails once
exactly in those histories where no request comes between a start that was refused and the
disposal. -/
theorem failsOnce_iff_observe [Monad m] [LawfulMonad m] (report : Diagnostic → m Unit)
    (engine : ScriptEngine m T) (c : CraftLoopConfig) (parser : CommandParser) (node : MacroNode)
    (hnode : node.language = .lua) (cs : List Call) :
    ∃ a : ActiveMacro T,
      start report c parser node = (do report (queued node 0 a.lineCount); return .ok a) ∧
      Always (fun r ↦ r.1.map Event.call = cs ∧ Failing r.1 ∧
          (FailsOnce r.1 ↔ r.1.Pairwise fun x y ↦ x.Refused → ¬y.Asks))
        (observe report engine a cs) ∧
      (fun r ↦ (r.1.map Event.answer, r.2)) <$> observe report engine a cs =
        performAll report engine a cs := by
  have h : node.isScript = true := by rw [MacroNode.isScript, hnode]; rfl
  refine ⟨unopened parser node, ?_, ?_, answers_observe _ cs⟩
  · rw [start, prepare_of_script c parser h]
    rfl
  · refine (observe_steps _ cs).mono fun r hr ↦ ⟨hr.2, hr.1.failing h, ?_⟩
    exact ⟨hr.1.not_asks_of_failsOnce h, hr.1.failsOnce h⟩

/-- A script that cannot be started is started by both requests: the second one breaks the law. -/
theorem not_failsOnce_observe_prepared :
    ({ name := "m", contents := "", language := .lua } : MacroNode).language = .lua ∧
    ∃ a : ActiveMacro (List Resumed),
      ¬FailsOnce (Id.run
        (observe (fun _ ↦ pure ()) (preparedEngine []) a [.currentStep, .currentStep])).1 := by
  refine ⟨rfl, ?_⟩
  obtain ⟨a, hstart, hlaw, -⟩ := failsOnce_iff_observe (fun _ ↦ pure ()) (preparedEngine []) {}
    lineParser { name := "m", contents := "", language := .lua } rfl [.currentStep, .currentStep]
  rw [Always.id_iff] at hlaw
  refine ⟨a, fun honce ↦ ?_⟩
  have hpair := hlaw.2.2.1 honce
  obtain rfl : unopened lineParser { name := "m", contents := "", language := .lua } = a :=
    Except.ok.inj hstart
  obtain ⟨hfirst, -⟩ := List.pairwise_cons.1 hpair
  exact hfirst _ (List.mem_singleton_self _) ⟨rfl, noEntrypoint, rfl⟩ ⟨rfl, rfl⟩

end ActiveMacro

end MacroStream
