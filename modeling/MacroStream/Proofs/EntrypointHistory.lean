import MacroStream.Entrypoint
import MacroStream.Proofs.Always
import MacroStream.Proofs.Run

/-!
# Histories of an entrypoint

What a host sees when it resumes and releases an entrypoint in any order, whatever the coroutine
does. The coroutine is watched: everything it gives is written down, so that the answers of the
entrypoint can be compared with the outputs of the coroutine itself.

* `Step` says once what one use can do. `observeOne_step` is the only place where the definitions of
  `resume` and `release` are opened; all that is said of whole histories is an induction over
  `Steps`.
* `Lawful` collects what holds of every history: how the state moves, what an answer tells of the
  coroutine, that a finished or released entrypoint leaves the coroutine alone, and that the lines
  answered are the outputs of the coroutine up to the first that is no line.

A resumption of an entrypoint that holds no coroutine and has not finished would be idle without
having ended. There is no such entrypoint: `Held` is kept by every use.
-/

namespace MacroStream

/-- The line that an output of a coroutine is, if its first value is a string. -/
def Resumed.line? : Resumed → Option String
  | .yielded (.text s :: _) | .returned (.text s :: _) => some s
  | _ => none

namespace Entrypoint

variable {m : Type → Type} {T : Type}

/-! ### Watched uses -/

/-- What a host does with an entrypoint. -/
inductive Use where
  | resume
  | release
  deriving DecidableEq, Repr

/-- One use of an entrypoint, with the states around it. -/
structure Event where
  use : Use
  before : EntrypointState
  /-- What the coroutine did meanwhile; nothing if it was left alone. -/
  outputs : List Resumed
  /-- The answer; a release answers nothing. -/
  answer : Outcome (Option String)
  after : EntrypointState

/-- The line that was answered. -/
def Event.line? (ev : Event) : Option String :=
  match ev.answer with
  | .ok line => line
  | .error _ => none

/-- Whether the use ended the entrypoint: it was let go, or has nothing more to give. -/
def Event.Ends (ev : Event) : Prop := ev.use = .release ∨ ev.after.isTerminal = true

section Watching

variable [Monad m]

/-- Writes down what a coroutine gives. -/
def watched (co : Coroutine m T) : Coroutine (StateT (List Resumed) m) T := fun t outputs ↦ do
  let (r, t) ← co t
  return ((r, t), outputs ++ [r])

/-- One use of an entrypoint whose coroutine is watched. -/
def observeOne (co : Coroutine m T) (e : Entrypoint T) : Use → m (Event × Entrypoint T)
  | .resume => do
    let ((answer, e'), outputs) ← (e.resume (watched co)).run []
    return (⟨.resume, e.state, outputs, answer, e'.state⟩, e')
  | .release => return (⟨.release, e.state, [], .ok none, e.release.state⟩, e.release)

/-- Uses one after the other. -/
def observe (co : Coroutine m T) (e : Entrypoint T) : List Use → m (List Event × Entrypoint T)
  | [] => return ([], e)
  | u :: us => do
    let (ev, e) ← observeOne co e u
    let (evs, e) ← observe co e us
    return (ev :: evs, e)

/-- The same uses without a look at the coroutine, with their answers. -/
def useAll (co : Coroutine m T) (e : Entrypoint T) :
    List Use → m (List (Outcome (Option String)) × Entrypoint T)
  | [] => return ([], e)
  | .resume :: us => do
    let (answer, e) ← e.resume co
    let (answers, e) ← useAll co e us
    return (answer :: answers, e)
  | .release :: us => do
    let (answers, e) ← useAll co e.release us
    return (.ok none :: answers, e)

end Watching

/-! ### What one use can do -/

/-- An entrypoint that was released has ended. -/
def Held (e : Entrypoint T) : Prop := e.thread = none → e.state.isTerminal = true

/-- What one use does. -/
inductive Step : Entrypoint T → Event → Entrypoint T → Prop
  /-- The coroutine runs, and its output decides the answer and the state. -/
  | resumed (t t' : T) (r : Resumed) {s : EntrypointState} (hs : s.isTerminal = false) :
    Step ⟨some t, s⟩ ⟨.resume, s, [r], (judge r).1, (judge r).2⟩ ⟨some t', (judge r).2⟩
  /-- There is nothing to resume. -/
  | idle (e : Entrypoint T) (he : e.state.isTerminal = true ∨ e.thread = none) :
    Step e ⟨.resume, e.state, [], .ok none, e.state⟩ e
  | released (e : Entrypoint T) :
    Step e ⟨.release, e.state, [], .ok none, e.release.state⟩ e.release

/-- What a sequence of uses does. -/
inductive Steps : Entrypoint T → List Event → Entrypoint T → Prop
  | nil (e : Entrypoint T) : Steps e [] e
  | cons {e e' e'' : Entrypoint T} {ev : Event} {evs : List Event} (h : Step e ev e')
    (hs : Steps e' evs e'') : Steps e (ev :: evs) e''

theorem Steps.run {e e' : Entrypoint T} {evs : List Event} (h : Steps e evs e') :
    Run Step e evs e' := by
  induction h with
  | nil e => exact .nil e
  | cons h _ ih => exact .cons h ih

section Watched

variable [Monad m] {co : Coroutine m T}

theorem resume_of_idle {e : Entrypoint T} (he : e.state.isTerminal = true ∨ e.thread = none) :
    e.resume co = pure (.ok none, e) := by
  obtain ⟨thread, s⟩ := e
  rcases he with he | rfl
  · cases thread <;> simp_all [resume]
  · cases h : s.isTerminal <;> simp [resume, h]

theorem resume_of_live (t : T) {s : EntrypointState} (hs : s.isTerminal = false) :
    (⟨some t, s⟩ : Entrypoint T).resume co = (do
      let (r, t) ← co t
      return ((judge r).1, ⟨some t, (judge r).2⟩)) := by
  simp [resume, hs]

variable [LawfulMonad m]

theorem observeOne_of_idle {e : Entrypoint T}
    (he : e.state.isTerminal = true ∨ e.thread = none) :
    observeOne co e .resume = pure (⟨.resume, e.state, [], .ok none, e.state⟩, e) := by
  simp [observeOne, resume_of_idle he]

theorem observeOne_of_live (t : T) {s : EntrypointState} (hs : s.isTerminal = false) :
    observeOne co ⟨some t, s⟩ .resume = (do
      let (r, t) ← co t
      return (⟨.resume, s, [r], (judge r).1, (judge r).2⟩, ⟨some t, (judge r).2⟩)) := by
  have hwatched : (watched co t).run [] = (fun r ↦ (r, [r.1])) <$> co t := by
    simp [StateT.run, watched]
  simp [observeOne, resume_of_live t hs, hwatched]

theorem observeOne_step (e : Entrypoint T) (u : Use) :
    Always (fun r ↦ Step e r.1 r.2 ∧ r.1.use = u) (observeOne co e u) := by
  cases u with
  | release => exact .pure ⟨.released e, rfl⟩
  | resume =>
    by_cases he : e.state.isTerminal = true ∨ e.thread = none
    · rw [observeOne_of_idle he]
      exact .pure ⟨.idle e he, rfl⟩
    · -- What is not idle has a coroutine, in a state that is not terminal.
      obtain ⟨_ | t, s⟩ := e
      · exact absurd (Or.inr rfl) he
      · have hs : s.isTerminal = false := by simpa using he
        rw [observeOne_of_live t hs]
        exact (Always.trivially _).bind fun r _ ↦ .pure ⟨.resumed t r.2 r.1 hs, rfl⟩

theorem observe_steps (e : Entrypoint T) (us : List Use) :
    Always (fun r ↦ Steps e r.1 r.2 ∧ r.1.map Event.use = us) (observe co e us) := by
  induction us generalizing e with
  | nil => exact .pure ⟨.nil e, rfl⟩
  | cons u us ih =>
    refine (observeOne_step e u).bind fun r hr ↦ (ih r.2).bind fun rs hrs ↦ .pure ⟨?_, ?_⟩
    · exact .cons hr.1 hrs.1
    · rw [List.map_cons, hr.2, hrs.2]

/-- Watching changes nothing. -/
theorem answers_observe (e : Entrypoint T) (us : List Use) :
    (fun r ↦ (r.1.map Event.answer, r.2)) <$> observe co e us = useAll co e us := by
  induction us generalizing e with
  | nil => simp [observe, useAll]
  | cons u us ih =>
    cases u with
    | release => simp [observe, useAll, observeOne, ← ih]
    | resume =>
      by_cases he : e.state.isTerminal = true ∨ e.thread = none
      · simp [observe, useAll, observeOne_of_idle he, resume_of_idle he, ← ih]
      · obtain ⟨_ | t, s⟩ := e
        · exact absurd (Or.inr rfl) he
        · have hs : s.isTerminal = false := by simpa using he
          simp [observe, useAll, observeOne_of_live t hs, resume_of_live t hs, ← ih]

end Watched

/-! ### What steps keep -/

variable {e e' : Entrypoint T} {ev : Event} {evs : List Event}

theorem Step.before_eq (h : Step e ev e') : ev.before = e.state := by cases h <;> rfl

theorem Step.after_eq (h : Step e ev e') : ev.after = e'.state := by cases h <;> rfl

theorem isTerminal_release (e : Entrypoint T) : e.release.state.isTerminal = true := by
  by_cases h : e.state.isTerminal = true
  · simp [release, h]
  · simp only [release, h]
    rfl

theorem Step.held (h : Step e ev e') (he : Held e) : Held e' := by
  cases h with
  | resumed => exact fun h ↦ nomatch h
  | idle => exact he
  | released => exact fun _ ↦ isTerminal_release e

/-- A use that ends the entrypoint leaves it in a terminal state. -/
theorem Step.isTerminal_of_ends (h : Step e ev e') (hev : ev.Ends) :
    e'.state.isTerminal = true := by
  rcases hev with hev | hev
  · cases h with
    | released => exact isTerminal_release e
    | resumed | idle => exact nomatch hev
  · rwa [← h.after_eq]

/-- A terminal state is kept, and the coroutine is left alone. -/
theorem Step.of_isTerminal (h : Step e ev e') (he : e.state.isTerminal = true) :
    e'.state = e.state ∧ ev.outputs = [] ∧ ev.answer = .ok none := by
  cases h with
  | resumed t t' r hs => exact absurd he (by simp [hs])
  | idle => exact ⟨rfl, rfl, rfl⟩
  | released => exact ⟨by simp [release, he], rfl, rfl⟩

theorem Steps.of_isTerminal (h : Steps e evs e') (he : e.state.isTerminal = true) :
    ∀ ev ∈ evs, ev.outputs = [] ∧ ev.answer = .ok none := by
  refine h.run.forall_of_kept (I := fun e ↦ e.state.isTerminal = true) (fun h he ↦ ?_) he
  obtain ⟨hstate, hev⟩ := h.of_isTerminal he
  exact ⟨by rw [hstate, he], hev⟩

/-! ### What an output comes to -/

/-- The first value of an output decides: it is a line, or there is none, or it is none. -/
theorem judge_answer_iff (r : Resumed) (s : String) :
    (judge r).1 = .ok (some s) ↔ r.line? = some s := by
  rcases r with (_ | ⟨_ | _, _⟩) | (_ | ⟨_ | _, _⟩) | _ <;> simp [judge, firstLine, Resumed.line?]

theorem judge_ne_notStarted (r : Resumed) : (judge r).2 ≠ .notStarted := by
  rcases r with (_ | ⟨_ | _, _⟩) | (_ | ⟨_ | _, _⟩) | _ <;> simp [judge, firstLine]

/-- Without a line the entrypoint has ended. -/
theorem judge_of_line?_eq_none {r : Resumed} (h : r.line? = none) :
    (judge r).2.isTerminal = true := by
  rcases r with (_ | ⟨_ | _, _⟩) | (_ | ⟨_ | _, _⟩) | _ <;>
    simp_all [judge, firstLine, Resumed.line?, EntrypointState.isTerminal]

theorem judge_of_error {r : Resumed} {err : EngineError} (h : (judge r).1 = .error err) :
    (judge r).2 = .failed := by
  rcases r with (_ | ⟨_ | _, _⟩) | (_ | ⟨_ | _, _⟩) | _ <;> simp_all [judge, firstLine]

/-! ### Histories -/

/-- The lines that a coroutine gave before its first output that is no line. -/
def leadingLines (outputs : List Resumed) : List String :=
  (outputs.takeWhile fun r ↦ r.line?.isSome).filterMap Resumed.line?

/-- The outputs of a coroutine before the entrypoint was released for the first time. -/
def outputsHeld (evs : List Event) : List Resumed :=
  (evs.takeWhile fun ev ↦ ev.use = .resume).flatMap Event.outputs

/-- What a single event of a history satisfies. -/
structure Event.Lawful (ev : Event) : Prop where
  /-- The state is left at once, and no state leads back to it. -/
  after_ne : ev.after ≠ .notStarted
  terminal_kept : ev.before.isTerminal = true → ev.after = ev.before
  /-- A resumption runs the coroutine once unless the state was terminal; nothing else runs it. -/
  length_outputs : ev.outputs.length =
    if ev.use = .resume ∧ ev.before.isTerminal = false then 1 else 0
  /-- A line is answered exactly if the coroutine ran and the first value of its output is it. -/
  line_iff : ∀ s, ev.answer = .ok (some s) ↔
    ∃ vs, ev.outputs = [.yielded (.text s :: vs)] ∨ ev.outputs = [.returned (.text s :: vs)]
  after_yielded : ∀ s vs, ev.outputs = [.yielded (.text s :: vs)] → ev.after = .suspended
  after_returned : ∀ s vs, ev.outputs = [.returned (.text s :: vs)] → ev.after = .completed
  after_none : ev.use = .resume → ev.answer = .ok none → ev.after.isTerminal = true
  after_error : ∀ err, ev.answer = .error err → ev.after = .failed

/-- What holds of every history of an entrypoint that starts with an unresumed coroutine. -/
structure Lawful (us : List Use) (evs : List Event) : Prop where
  uses : evs.map Event.use = us
  starts : ∀ ev ∈ evs.head?, ev.before = .notStarted
  connected : evs.IsChain fun a b ↦ b.before = a.after
  each : ∀ ev ∈ evs, ev.Lawful
  /-- Behind the end the coroutine is left alone, and there is no line any more. -/
  ended : evs.Pairwise fun a b ↦ a.Ends → b.outputs = [] ∧ b.answer = .ok none
  lines : evs.filterMap Event.line? = leadingLines (outputsHeld evs)

theorem line?_eq_some_iff (r : Resumed) (s : String) :
    r.line? = some s ↔ ∃ vs, r = .yielded (.text s :: vs) ∨ r = .returned (.text s :: vs) := by
  rcases r with (_ | ⟨_ | _, _⟩) | (_ | ⟨_ | _, _⟩) | _ <;> simp [Resumed.line?]

theorem Step.lawful (h : Step e ev e') (he : Held e) : ev.Lawful := by
  cases h with
  | resumed t t' r hs =>
    refine ⟨judge_ne_notStarted r, ?_, by simp [hs], ?_, ?_, ?_, ?_, fun _ ↦ judge_of_error⟩
    · intro hs'
      exact absurd hs' (by simp [hs])
    · intro s
      simp only [judge_answer_iff, line?_eq_some_iff, List.cons.injEq, and_true]
    · rintro s vs ⟨⟩
      rfl
    · rintro s vs ⟨⟩
      rfl
    · intro _ hnone
      refine judge_of_line?_eq_none (Option.eq_none_iff_forall_ne_some.2 fun s hs ↦ ?_)
      rw [← judge_answer_iff] at hs
      exact nomatch hs.symm.trans hnone
  | idle _ hidle =>
    have hend : e.state.isTerminal = true := hidle.elim id he
    have hne : e.state ≠ .notStarted := fun h ↦ nomatch h ▸ hend
    exact ⟨hne, fun _ ↦ rfl, by simp [hend], by simp, by simp, by simp, fun _ _ ↦ hend, by simp⟩
  | released =>
    have hne : e.release.state ≠ .notStarted := fun h ↦ nomatch h ▸ isTerminal_release e
    exact ⟨hne, fun h ↦ by simp [release, h], by simp, by simp, by simp, by simp, by simp, by simp⟩

/-- Behind a terminal state there are no lines. -/
theorem Steps.filterMap_line?_of_isTerminal (h : Steps e evs e')
    (he : e.state.isTerminal = true) : evs.filterMap Event.line? = [] := by
  refine List.filterMap_eq_nil_iff.2 fun ev hev ↦ ?_
  simp [Event.line?, (h.of_isTerminal he ev hev).2]

/-- The line that is answered is the line that the output is. -/
theorem line?_of_judge (r : Resumed) (s : EntrypointState) :
    Event.line? ⟨.resume, s, [r], (judge r).1, (judge r).2⟩ = r.line? := by
  rcases r with (_ | ⟨_ | _, _⟩) | (_ | ⟨_ | _, _⟩) | _ <;> rfl

theorem Steps.lines (h : Steps e evs e') :
    evs.filterMap Event.line? = leadingLines (outputsHeld evs) := by
  induction h with
  | nil => rfl
  | @cons e₀ e₁ e₂ ev evs h hs ih =>
    cases h with
    | resumed t t' r hlive =>
      cases hr : r.line? with
      | some line => simp [line?_of_judge, hr, ih, outputsHeld, leadingLines]
      | none =>
        -- The output is no line, so the entrypoint has ended and nothing follows.
        have hnone := hs.filterMap_line?_of_isTerminal (judge_of_line?_eq_none hr)
        simp [line?_of_judge, hr, hnone, outputsHeld, leadingLines]
    | idle =>
      rw [List.filterMap_cons_none rfl, ih]
      simp [outputsHeld]
    | released =>
      rw [List.filterMap_cons_none rfl, hs.filterMap_line?_of_isTerminal (isTerminal_release e₀)]
      simp [outputsHeld, leadingLines]

theorem Steps.lawful {us : List Use} (h : Steps e evs e') (he : Held e)
    (hstart : e.state = .notStarted) (hus : evs.map Event.use = us) : Lawful us evs where
  uses := hus
  starts ev hev := (h.run.before_head Step.before_eq ev hev).trans hstart
  connected := h.run.connected Step.before_eq Step.after_eq
  each := h.run.forall_of_kept (I := Held) (fun h he ↦ ⟨h.held he, h.lawful he⟩) he
  ended := h.run.pairwise_of_kept (J := fun _ ↦ True) (I := fun e ↦ e.state.isTerminal = true)
    (fun _ _ ↦ trivial) (fun h _ hev ↦ h.isTerminal_of_ends hev)
    (fun h he ↦ ⟨by rw [(h.of_isTerminal he).1, he], (h.of_isTerminal he).2⟩) trivial
  lines := h.lines

/-- **The law of entrypoints.** Whatever the coroutine does, whenever it is resumed and whenever the
entrypoint is released, the history is lawful; and the watched entrypoint answers as it does when
nobody watches. -/
theorem always_lawful_observe [Monad m] [LawfulMonad m] (co : Coroutine m T) (t : T)
    (us : List Use) :
    Always (fun r ↦ Lawful us r.1) (observe co (.ofThread t) us) ∧
      (fun r ↦ (r.1.map Event.answer, r.2)) <$> observe co (.ofThread t) us =
        useAll co (.ofThread t) us :=
  ⟨(observe_steps _ us).mono fun _ h ↦ h.1.lawful (fun h ↦ nomatch h) rfl h.2,
    answers_observe _ us⟩

/-- Gives prepared outputs, and nothing when there are none left. -/
def prepared : Coroutine Id (List Resumed)
  | [] => (.returned [], [])
  | r :: rs => (r, rs)

/-- A line, a number, and a resumption too many: the second output ends the entrypoint, and the
third is never asked for. -/
theorem lawful_observe_prepared : LawfulMonad Id ∧
    Lawful [.resume, .resume, .resume, .release, .resume]
      (Id.run (observe prepared
        (.ofThread [.yielded [.text "/echo a"], .yielded [.other "integer"], .yielded []])
        [.resume, .resume, .resume, .release, .resume])).1 := by
  refine ⟨inferInstance, ?_⟩
  have h := (always_lawful_observe prepared
    [.yielded [.text "/echo a"], .yielded [.other "integer"], .yielded []]
    [.resume, .resume, .resume, .release, .resume]).1
  rw [Always.id_iff] at h
  exact h

end Entrypoint

end MacroStream
