import MacroStream.Proofs.ActiveHistory
import MacroStream.Proofs.Run

/-!
# Histories of a bridge

What a host sees when it asks a bridge for lines and disposes of it in any order, whatever the
coroutine behind it does: the answers, and the states that the bridge reports around each call.

A bridge has no state of its own. It reports the state of its entrypoint, and once it was disposed
of it reports `completed`, as it has no entrypoint any more. So a terminal state is kept by every
request for a line, and `completed` is kept by everything; but a script that failed counts as
completed as soon as it is disposed of, although its entrypoint, when it is released, keeps the
failure.

* `Lawful` is what holds of every history.
* `KeepsTerminal` is the law that no terminal state is ever left. The histories that satisfy it are
  exactly those in which no script is disposed of after it has failed.
-/

namespace MacroStream

namespace ScriptBridge

open Entrypoint (judge)

variable {m : Type → Type} {T : Type}

/-! ### Calls -/

/-- What a host does with a bridge. -/
inductive Call where
  | nextLine
  | dispose
  deriving DecidableEq, Repr

/-- One call, with the states that the bridge reports around it. -/
structure Event where
  call : Call
  before : EntrypointState
  /-- The answer; a disposal answers nothing. -/
  answer : Outcome (Option String)
  after : EntrypointState

section Calling

variable [Monad m]

/-- One call. -/
def observeOne (engine : ScriptEngine m T) (b : ScriptBridge T) :
    Call → m (Event × ScriptBridge T)
  | .nextLine => do
    let (answer, b') ← b.nextLine engine
    return (⟨.nextLine, b.state, answer, b'.state⟩, b')
  | .dispose => return (⟨.dispose, b.state, .ok none, b.dispose.state⟩, b.dispose)

/-- Calls one after the other. -/
def observe (engine : ScriptEngine m T) (b : ScriptBridge T) :
    List Call → m (List Event × ScriptBridge T)
  | [] => return ([], b)
  | c :: cs => do
    let (ev, b) ← observeOne engine b c
    let (evs, b) ← observe engine b cs
    return (ev :: evs, b)

end Calling

/-! ### What histories satisfy -/

/-- No terminal state is ever left. -/
def KeepsTerminal (evs : List Event) : Prop :=
  evs.Pairwise fun x y ↦ x.after.isTerminal = true → y.after = x.after

/-- What holds of the calls `cs` on a bridge whose script has not run. -/
structure Lawful (cs : List Call) (evs : List Event) : Prop where
  calls : evs.map Event.call = cs
  starts : ∀ ev ∈ evs.head?, ev.before = .notStarted
  connected : evs.IsChain fun x y ↦ y.before = x.after
  /-- A single call leaves a terminal state only where a script that failed is disposed of. -/
  left : ∀ ev ∈ evs, ev.before.isTerminal = true → ev.after ≠ ev.before →
    ev.before = .failed ∧ ev.call = .dispose
  completed : evs.Pairwise fun x y ↦ x.after = .completed → y.after = .completed
  dispose : ∀ ev ∈ evs, ev.call = .dispose → ev.after = .completed
  /-- Behind a disposal there is no line. -/
  disposed : evs.Pairwise fun x y ↦ x.call = .dispose → y.answer = .ok none

/-! ### What one call can do -/

/-- What one call does. -/
inductive Step : ScriptBridge T → Event → ScriptBridge T → Prop
  /-- The coroutine runs, and its output decides the answer and the state. -/
  | resumed (t t' : T) (s : EntrypointState) (r : Resumed) (hs : s.isTerminal = false) :
    Step ⟨some ⟨some t, s⟩⟩ ⟨.nextLine, s, (judge r).1, (judge r).2⟩ ⟨some ⟨some t', (judge r).2⟩⟩
  /-- There is nothing to resume. -/
  | idle (b : ScriptBridge T) (hb : b.Idle) : Step b ⟨.nextLine, b.state, .ok none, b.state⟩ b
  | disposed (b : ScriptBridge T) : Step b ⟨.dispose, b.state, .ok none, .completed⟩ ⟨none⟩

variable {b b' : ScriptBridge T} {ev : Event} {evs : List Event}

section Observed

variable [Monad m] [LawfulMonad m] {engine : ScriptEngine m T}

theorem observeOne_step (b : ScriptBridge T) (c : Call) :
    Always (fun r ↦ Step b r.1 r.2 ∧ r.1.call = c) (observeOne engine b c) := by
  cases c with
  | dispose => exact .pure ⟨.disposed b, rfl⟩
  | nextLine =>
    by_cases hb : b.Idle
    · rw [observeOne, nextLine_of_idle hb, pure_bind]
      exact .pure ⟨.idle b hb, rfl⟩
    · obtain ⟨t, s, hs, rfl⟩ := exists_of_not_idle hb
      rw [observeOne, nextLine_of_live t hs, bind_assoc]
      refine (Always.trivially _).bind fun r _ ↦ ?_
      rw [pure_bind]
      exact .pure ⟨.resumed t r.2 s r.1 hs, rfl⟩

theorem observe_run (b : ScriptBridge T) (cs : List Call) :
    Always (fun r ↦ Run Step b r.1 r.2 ∧ r.1.map Event.call = cs) (observe engine b cs) := by
  induction cs generalizing b with
  | nil => exact .pure ⟨.nil b, rfl⟩
  | cons c cs ih =>
    refine (observeOne_step b c).bind fun r hr ↦ (ih r.2).bind fun rs hrs ↦ .pure ⟨?_, ?_⟩
    · exact .cons hr.1 hrs.1
    · rw [List.map_cons, hr.2, hrs.2]

end Observed

/-! ### What one call keeps -/

theorem Step.before_eq (h : Step b ev b') : ev.before = b.state := by cases h <;> rfl

theorem Step.after_eq (h : Step b ev b') : ev.after = b'.state := by cases h <;> rfl

theorem Step.after_of_dispose (h : Step b ev b') (hev : ev.call = .dispose) :
    ev.after = .completed := by
  cases h with
  | disposed => rfl
  | resumed | idle => exact nomatch hev

/-- A terminal state is kept, unless a script that failed is disposed of. -/
theorem Step.state_eq (h : Step b ev b') (hb : b.state.isTerminal = true)
    (hev : b.state = .failed → ev.call ≠ .dispose) : b'.state = b.state := by
  cases h with
  | resumed t t' s r hs =>
    have hterminal : s.isTerminal = true := hb
    exact absurd hterminal (by simp [hs])
  | idle => rfl
  | disposed =>
    -- Of the two terminal states it is the one that the disposal leaves.
    cases hs : b.state with
    | completed => rfl
    | failed => exact absurd rfl (hev hs)
    | notStarted | suspended => exact nomatch hs ▸ hb

theorem Step.completed (h : Step b ev b') (hb : b.state = .completed) :
    b'.state = .completed := by
  have hterminal : b.state.isTerminal = true := by rw [hb]; rfl
  exact (h.state_eq hterminal fun hfailed ↦ nomatch hb.symm.trans hfailed).trans hb

theorem Step.eq_failed_of_left (h : Step b ev b') (hev : ev.before.isTerminal = true)
    (hleft : ev.after ≠ ev.before) : ev.before = .failed ∧ ev.call = .dispose := by
  rw [h.before_eq] at hev hleft ⊢
  rw [h.after_eq] at hleft
  by_contra hnot
  exact hleft (h.state_eq hev fun hfailed hdispose ↦ hnot ⟨hfailed, hdispose⟩)

/-- A bridge that was disposed of stays without an entrypoint, and has no lines. -/
theorem Step.gone (h : Step b ev b') (hb : b.entrypoint = none) :
    b'.entrypoint = none ∧ ev.answer = .ok none := by
  cases h with
  | resumed => exact nomatch hb
  | idle => exact ⟨hb, rfl⟩
  | disposed => exact ⟨rfl, rfl⟩

theorem Step.gone_of_dispose (h : Step b ev b') (hev : ev.call = .dispose) :
    b'.entrypoint = none := by
  cases h with
  | disposed => rfl
  | resumed | idle => exact nomatch hev

/-! ### Histories -/

theorem lawful_of_run {cs : List Call} (h : Run Step b evs b') (hb : b.state = .notStarted)
    (hcs : evs.map Event.call = cs) : Lawful cs evs where
  calls := hcs
  starts ev hev := (h.before_head Step.before_eq ev hev).trans hb
  connected := h.connected Step.before_eq Step.after_eq
  left := h.forall_of_kept (I := fun _ ↦ True)
    (fun h _ ↦ ⟨trivial, fun hev hleft ↦ h.eq_failed_of_left hev hleft⟩) trivial
  completed := h.pairwise_of_kept (J := fun _ ↦ True) (I := fun b ↦ b.state = .completed)
    (fun _ _ ↦ trivial) (fun h _ hev ↦ h.after_eq.symm.trans hev)
    (fun h hb ↦ ⟨h.completed hb, h.after_eq.trans (h.completed hb)⟩) trivial
  dispose := h.forall_of_kept (I := fun _ ↦ True)
    (fun h _ ↦ ⟨trivial, h.after_of_dispose⟩) trivial
  disposed := h.pairwise_of_kept (J := fun _ ↦ True) (I := fun b ↦ b.entrypoint = none)
    (fun _ _ ↦ trivial) (fun h _ ↦ h.gone_of_dispose) (fun h ↦ h.gone) trivial

/-- A history keeps all terminal states exactly if no failure is followed by a disposal. -/
theorem keepsTerminal_iff (h : Run Step b evs b') :
    KeepsTerminal evs ↔ evs.Pairwise fun x y ↦ x.after = .failed → y.call ≠ .dispose := by
  constructor
  · intro hkeeps
    refine hkeeps.imp_of_mem fun {x y} _ hy hxy hx hdispose ↦ ?_
    have hcompleted : y.after = .completed :=
      h.forall_of_kept (I := fun _ ↦ True) (fun h _ ↦ ⟨trivial, h.after_of_dispose⟩) trivial
        y hy hdispose
    have hfailed : y.after = .failed := by rw [hxy (by rw [hx]; rfl), hx]
    exact nomatch hcompleted.symm.trans hfailed
  · intro hnot
    induction h with
    | nil => exact .nil
    | @cons _ b' _ x evs h hrun ih =>
      obtain ⟨hhead, htail⟩ := List.pairwise_cons.1 hnot
      refine List.pairwise_cons.2 ⟨fun y hy hx ↦ ?_, ih htail⟩
      rw [h.after_eq] at hhead hx ⊢
      -- From here on the state is that of `b'`, as no call disposes of a failure.
      refine hrun.forall_of_kept_while (I := fun b ↦ b.state = b'.state)
        (P := fun ev ↦ b'.state = .failed → ev.call ≠ .dispose)
        (Q := fun ev ↦ ev.after = b'.state) (fun {b₁ ev b₂} h hb hev ↦ ?_) rfl hhead y hy
      rw [← hb] at hx hev
      have hkept : b₂.state = b'.state := (h.state_eq hx hev).trans hb
      exact ⟨hkept, h.after_eq.trans hkept⟩

/-- **The law of bridges.** Whatever the coroutine does and in whatever order a bridge is asked for
lines and disposed of, its history is lawful; and it keeps every terminal state that it reports
exactly if the script is not disposed of after it has failed. -/
theorem keepsTerminal_iff_observe [Monad m] [LawfulMonad m] (engine : ScriptEngine m T)
    (name source : String) (cs : List Call) :
    Always (fun o ↦ ∀ b, o = .ok b →
        Always (fun r ↦ Lawful cs r.1 ∧
          (KeepsTerminal r.1 ↔ r.1.Pairwise fun x y ↦ x.after = .failed → y.call ≠ .dispose))
          (observe engine b cs))
      (init engine name source) := by
  rw [init]
  refine (Always.trivially _).bind fun started _ ↦ .pure fun b hb ↦ ?_
  -- A script that was started has not been resumed yet.
  have hstate : b.state = .notStarted := by
    cases started with
    | error e => cases hb
    | ok t =>
      obtain rfl : ⟨some (.ofThread t)⟩ = b := Except.ok.inj hb
      rfl
  exact (observe_run b cs).mono fun r hr ↦ ⟨lawful_of_run hr.1 hstate hr.2, keepsTerminal_iff hr.1⟩

/-- A script that fails and is then disposed of: the failure is forgotten. -/
theorem not_keepsTerminal_observe_failed : LawfulMonad Id ∧
    ∃ b : ScriptBridge (List Resumed),
      ¬KeepsTerminal (Id.run (observe
        ⟨fun _ _ ↦ .ok [.failed "bad recipe"], Entrypoint.prepared⟩ b
        [.nextLine, .dispose])).1 := by
  refine ⟨inferInstance, ⟨some (.ofThread [.failed "bad recipe"])⟩, ?_⟩
  have hlaw := keepsTerminal_iff_observe
    ⟨fun _ _ ↦ (.ok [.failed "bad recipe"] : Id _), Entrypoint.prepared⟩ "m" "error('bad recipe')"
    [.nextLine, .dispose]
  rw [Always.id_iff] at hlaw
  have hrun := hlaw _ rfl
  rw [Always.id_iff] at hrun
  intro hkeeps
  obtain ⟨hhead, -⟩ := List.pairwise_cons.1 (hrun.2.1 hkeeps)
  exact hhead _ (List.mem_singleton_self _) rfl rfl

end ScriptBridge

end MacroStream
